import ClearCam.Pairing.Store

/-! The text in which the store's map is kept. What the store relies on is that the text of a map
reads back as that map; a table for each device, under a bare or a quoted key, does so. -/
namespace ClearCam.Pairing

/-- The TOML crate, for the store's own type. -/
structure Toml where
  toStringPretty : OnDisk → String
  fromStr : String → Option OnDisk

/-- The maps that hold the same entries. -/
def Same (a b : OnDisk) : Prop := ∀ udid, a.lookup udid = b.lookup udid

theorem Same.symm (a b : OnDisk) (same : Same a b) : Same b a := fun udid => (same udid).symm

theorem Same.trans (a b c : OnDisk) (first : Same a b) (second : Same b c) : Same a c :=
  fun udid => (first udid).trans (second udid)

def Toml.RoundTrips (toml : Toml) : Prop :=
  ∀ data, ∃ loaded, toml.fromStr (toml.toStringPretty data) = some loaded ∧ Same loaded data

def escapeChar (c : Char) : List Char :=
  if c = '"' then ['\\','"'] else if c = '\\' then ['\\','\\'] else if c = '\n' then ['\\','n'] else [c]

def escape (text : List Char) : List Char := text.flatMap escapeChar

/-- Behind an opening quote: the text up to the closing one, and what follows that. -/
def unquote (escaped : Bool) : List Char → Option (List Char × List Char)
  | [] => none
  | c :: rest =>
    if escaped then (unquote false rest).map fun read => ((if c = 'n' then '\n' else c) :: read.1,read.2)
    else if c = '"' then some ([],rest)
    else if c = '\\' then unquote true rest
    else (unquote false rest).map fun read => (c :: read.1,read.2)

theorem unquote_escape (text rest : List Char) : unquote false (escape text ++ '"' :: rest) = some (text,rest) := by
  induction text with
  | nil => rfl
  | cons c text ih =>
    rw [escape,List.flatMap_cons,List.append_assoc]
    change unquote false (escapeChar c ++ (escape text ++ '"' :: rest)) = some (c :: text,rest)
    by_cases quote : c = '"'
    · subst quote
      simp [escapeChar,unquote,ih]
    by_cases slash : c = '\\'
    · subst slash
      simp [escapeChar,unquote,ih]
    by_cases line : c = '\n'
    · subst line
      simp [escapeChar,unquote,ih]
    simp [escapeChar,quote,slash,line,unquote,ih]

def expect (literal text : List Char) : Option (List Char) :=
  if literal.isPrefixOf text then some (text.drop literal.length) else none

theorem expect_append (literal rest : List Char) : expect literal (literal ++ rest) = some rest := by
  rw [expect,if_pos (List.isPrefixOf_iff_prefix.mpr (List.prefix_append _ _)),List.drop_left]

theorem expect_line (rest : List Char) : expect ['\n'] ('\n' :: rest) = some rest := expect_append ['\n'] rest

def bareChar (c : Char) : Bool := c.isAlphanum || c = '_' || c = '-'

/-- A key stands bare where its characters allow it, and else in quotes. -/
def keyText (key : List Char) : List Char :=
  if key ≠ [] ∧ key.all bareChar then key else '"' :: (escape key ++ ['"'])

def readKey (text : List Char) : Option (List Char × List Char) :=
  if text.takeWhile bareChar = [] then (expect ['"'] text).bind (unquote false)
  else some (text.takeWhile bareChar,text.dropWhile bareChar)

theorem readKey_text (key rest : List Char) (stops : rest.takeWhile bareChar = []) :
    readKey (keyText key ++ rest) = some (key,rest) := by
  unfold keyText readKey
  split
  · next bare =>
    have all : ∀ c ∈ key, bareChar c = true := List.all_eq_true.mp bare.2
    have left : rest.dropWhile bareChar = rest := by
      have whole := List.takeWhile_append_dropWhile (p := bareChar) (l := rest)
      rwa [stops,List.nil_append] at whole
    rw [List.takeWhile_append_of_pos all,List.dropWhile_append_of_pos all,stops,List.append_nil,left,if_neg bare.1]
  · have quoted : '"' :: (escape key ++ ['"']) ++ rest = ['"'] ++ (escape key ++ '"' :: rest) := by
      simp
    rw [quoted,expect_append,if_pos (by rfl),Option.bind_some,unquote_escape]

def header : List Char := "[pairings.".toList

def keyLine : List Char := ']' :: "\npairing_key_b64 = \"".toList

def timeLine : List Char := "\npaired_at = \"".toList

def tableText (table : (_ : String) × OnDiskEntry) : List Char :=
  header ++ (keyText table.1.toList ++ (keyLine ++ (escape table.2.pairingKeyB64.toList ++
    '"' :: (timeLine ++ (escape table.2.pairedAt.toList ++ '"' :: ['\n'])))))

def readTable (text : List Char) : Option (((_ : String) × OnDiskEntry) × List Char) := do
  let (udid,text) ← readKey (← expect header text)
  let (key,text) ← unquote false (← expect keyLine text)
  let (time,text) ← unquote false (← expect timeLine text)
  return (⟨String.ofList udid,⟨String.ofList key,String.ofList time⟩⟩,← expect ['\n'] text)

theorem readTable_text (table : (_ : String) × OnDiskEntry) (rest : List Char) :
    readTable (tableText table ++ rest) = some (table,rest) := by
  have bare (more : List Char) : (keyLine ++ more).takeWhile bareChar = [] := rfl
  simp only [readTable,tableText,List.append_assoc,List.cons_append,List.nil_append,expect_append,unquote_escape,
    readKey_text _ _ (bare _),expect_line,Option.bind_eq_bind,Option.bind_some]
  simp [String.ofList_toList]

def laterText (table : (_ : String) × OnDiskEntry) : List Char := '\n' :: tableText table

def emptyText : List Char := "[pairings]\n".toList

/-- A blank line stands between the tables. -/
def tablesText : List ((_ : String) × OnDiskEntry) → List Char
  | [] => emptyText
  | table :: later => tableText table ++ later.flatMap laterText

def readLater : Nat → List Char → Option (List ((_ : String) × OnDiskEntry))
  | _, [] => some []
  | 0, _ :: _ => none
  | fuel + 1, c :: rest => do
    let (table,rest) ← readTable (← expect ['\n'] (c :: rest))
    return table :: (← readLater fuel rest)

theorem readLater_text (later : List ((_ : String) × OnDiskEntry)) (fuel : Nat) (enough : later.length ≤ fuel) :
    readLater fuel (later.flatMap laterText) = some later := by
  induction later generalizing fuel with
  | nil =>
    cases fuel with
    | zero => rfl
    | succ fuel => rfl
  | cons table later ih =>
    obtain ⟨fuel,rfl⟩ : ∃ less, fuel = less + 1 := ⟨fuel - 1,by simp at enough; omega⟩
    have rest := ih fuel (by simpa using enough)
    simp only [List.flatMap_cons,laterText,List.cons_append,readLater,expect_line,readTable_text,rest,
      Option.bind_eq_bind,Option.bind_some]
    rfl

theorem length_later (later : List ((_ : String) × OnDiskEntry)) : later.length ≤ (later.flatMap laterText).length := by
  induction later with
  | nil => exact Nat.le_refl _
  | cons table later ih =>
    rw [List.flatMap_cons,laterText,List.length_append,List.length_cons,List.length_cons]
    omega

/-- The layout of `pairings.toml`: a table for each device. -/
def pairingsToml : Toml where
  toStringPretty data := String.ofList (tablesText data.entries)
  fromStr text :=
    if text.toList = emptyText then some ∅
    else do
      let (table,rest) ← readTable text.toList
      return (table :: (← readLater text.length rest)).toAList

theorem header_length : header.length = 10 := by decide +kernel

theorem tableText_ne_empty (table : (_ : String) × OnDiskEntry) (rest : List Char) :
    tableText table ++ rest ≠ emptyText := by
  intro same
  have tenth := congrArg (fun text : List Char => text[9]?) same
  have dot : (tableText table ++ rest)[9]? = header[9]? := by
    rw [tableText,List.append_assoc,List.getElem?_append_left (by rw [header_length]; omega)]
  simp only [dot] at tenth
  exact absurd tenth (by decide +kernel)

theorem pairingsToml_roundTrips : pairingsToml.RoundTrips := by
  intro data
  cases tables : data.entries with
  | nil =>
    refine ⟨∅,?_,?_⟩
    · simp [pairingsToml,tables,tablesText]
    · intro udid
      simp [AList.lookup,tables]
  | cons table later =>
    refine ⟨data.entries.toAList,?_,?_⟩
    · have other : tablesText data.entries ≠ emptyText := by
        rw [tables]
        exact tableText_ne_empty table _
      have read : readLater (String.ofList (tablesText data.entries)).length (later.flatMap laterText) = some later := by
        apply readLater_text
        rw [String.length_ofList,tables,tablesText,List.length_append]
        exact Nat.le_trans (length_later later) (Nat.le_add_left _ _)
      simp only [pairingsToml,String.toList_ofList,if_neg other]
      rw [tables] at read ⊢
      simp only [tablesText,readTable_text,Option.bind_eq_bind,Option.bind_some] at read ⊢
      rw [read]
      rfl
    · intro udid
      exact AList.lookup_to_alist data.entries

set_option maxRecDepth 8000 in
example : pairingsToml.toStringPretty ((AList.singleton "00008110-A" ⟨"AQID","2026-05-28T20:00:00Z"⟩).insert "00008110-B"
    ⟨"BA","2026-05-28T20:01:00Z"⟩) =
    "[pairings.00008110-B]\npairing_key_b64 = \"BA\"\npaired_at = \"2026-05-28T20:01:00Z\"\n\n" ++
    "[pairings.00008110-A]\npairing_key_b64 = \"AQID\"\npaired_at = \"2026-05-28T20:00:00Z\"\n" := by decide

end ClearCam.Pairing
