import ForkSchedule.Toml.Character
import ForkSchedule.Toml.Scalar
import ForkSchedule.Toml.Text

/-!
# TOML keys and values

Readers for keys, values and pairs of both. A reader takes what it knows from the front of a text
and gives what follows, which is shorter; it has no error to report but that the text is not TOML.
Arrays and inline tables nest to a fixed depth.
-/

namespace ForkSchedule.Toml

/-- A reader takes something from the front of a text. -/
structure Reader (α : Type) where
  /-- What is read, and what follows it. -/
  read : List Char → Option (α × List Char)
  shortens : ∀ {cs left : List Char} {answer : α},
    read cs = some (answer, left) → left.length < cs.length

/-! ## Keys -/

/-- A key that may be dotted: the keys of the tables it leads through and the last one. -/
structure Key where
  path : List (List Char)
  last : List Char

/-- The number of parts that a key must stay below. -/
def keyLimit : Nat := 80

/-- One part of a key: bare or with marks. -/
def keyPart : List Char → Option (List Char × List Char)
  | '\x22' :: rest => escaped rest
  | '\x27' :: rest => literal rest
  | cs =>
    if cs.takeWhile isBare = [] then none else some (cs.takeWhile isBare, cs.dropWhile isBare)

theorem keyPart_length {cs part left : List Char} (hpart : keyPart cs = some (part, left)) :
    left.length < cs.length := by
  unfold keyPart at hpart
  split at hpart
  next rest =>
    have := escaped_length hpart
    simp only [List.length_cons]
    omega
  next rest =>
    have := literal_length hpart
    simp only [List.length_cons]
    omega
  · split at hpart
    · simp at hpart
    next hne =>
      obtain ⟨-, rfl⟩ := by simpa using hpart
      exact Text.length_dropWhile_lt hne

/-- The parts of a key with the dots between them and white space around them. -/
def keyParts (cs : List Char) : Option (Key × List Char) :=
  match _ : keyPart (skipBlank cs) with
  | none => none
  | some (part, rest) =>
    match _ : skipBlank rest with
    | '.' :: more => (keyParts more).map fun (key, left) => (⟨part :: key.path, key.last⟩, left)
    | left => some (⟨[], part⟩, left)
termination_by cs.length
decreasing_by
  rename_i hpart hdot
  have hshort := keyPart_length hpart
  have hle := skipBlank_length cs
  have hmore := skipBlank_length rest
  rw [hdot, List.length_cons] at hmore
  omega

theorem keyParts_length {cs left : List Char} {key : Key}
    (hparts : keyParts cs = some (key, left)) : left.length < cs.length := by
  fun_induction keyParts cs generalizing key left with
  | case1 => simp at hparts
  | case2 cs part rest hpart more hdot ih =>
    obtain ⟨⟨key', left'⟩, hrest, heq⟩ := Option.map_eq_some_iff.1 hparts
    obtain ⟨-, rfl⟩ := by simpa using heq
    have := ih hrest
    have := keyPart_length hpart
    have := skipBlank_length cs
    have hmore := skipBlank_length rest
    rw [hdot, List.length_cons] at hmore
    omega
  | case3 cs part rest hpart hleft =>
    obtain ⟨-, rfl⟩ := by simpa using hparts
    have := keyPart_length hpart
    have := skipBlank_length cs
    have := skipBlank_length rest
    omega

/-- A key, which must not have too many parts. -/
def key : Reader Key where
  read cs := (keyParts cs).filter fun found => found.1.path.length + 1 < keyLimit
  shortens hkey := keyParts_length (Option.filter_eq_some_iff.1 hkey).1

/-! ## Values -/

/-- The number of arrays and inline tables that may stand inside each other. -/
def depthLimit : Nat := 79

/-- The characters of a value without marks and brackets. -/
def isScalarChar (c : Char) : Bool := !endsScalar c

/-- Whether a time stands after a blank. -/
def timeAhead : List Char → Bool
  | ' ' :: c :: _ => c.isDigit
  | _ => false

/-- A value without marks and brackets. A date may be followed by a blank and a time. -/
def scalar (cs : List Char) : Option (Value × List Char) :=
  let word := cs.takeWhile isScalarChar
  let rest := cs.dropWhile isScalarChar
  if isDate word && timeAhead rest then
    if isTimeWithOffset (rest.tail.takeWhile isScalarChar) then
      some (.moment, rest.tail.dropWhile isScalarChar)
    else none
  else (scalar? word).map fun value => (value, rest)

theorem scalar?_nil : scalar? [] = none := by decide

theorem scalar_length {cs left : List Char} {value : Value}
    (hscalar : scalar cs = some (value, left)) : left.length < cs.length := by
  unfold scalar at hscalar
  simp only at hscalar
  split at hscalar
  next hdate =>
    split at hscalar
    · obtain ⟨-, rfl⟩ := by simpa using hscalar
      have hne : cs.takeWhile isScalarChar ≠ [] := by
        intro hnil
        rw [hnil] at hdate
        simp [isDate, afterDate?] at hdate
      have := Text.length_dropWhile_lt hne
      have := Text.length_dropWhile_le isScalarChar (cs.dropWhile isScalarChar).tail
      have hfront : (cs.dropWhile isScalarChar).tail.length = _ := List.length_tail
      omega
    · simp at hscalar
  · obtain ⟨value', hvalue, heq⟩ := Option.map_eq_some_iff.1 hscalar
    obtain ⟨-, rfl⟩ := by simpa using heq
    apply Text.length_dropWhile_lt
    intro hnil
    rw [hnil, scalar?_nil] at hvalue
    simp at hvalue

/-- A value without anything nested in it. -/
def plainValue (cs : List Char) : Option (Value × List Char) :=
  match text cs with
  | some (content, left) => some (.text content, left)
  | none => scalar cs

theorem plainValue_length {cs left : List Char} {value : Value}
    (hplain : plainValue cs = some (value, left)) : left.length < cs.length := by
  unfold plainValue at hplain
  split at hplain
  next content left' htext =>
    obtain ⟨-, rfl⟩ := by simpa using hplain
    exact text_length htext
  · exact scalar_length hplain

/-- The items of an array up to its end. A comma may follow the last one. -/
def items (value : Reader Value) (cs : List Char) : Option (List Value × List Char) :=
  match _ : skipLines false cs with
  | ']' :: left => some ([], left)
  | start =>
    match _ : value.read start with
    | none => none
    | some (item, rest) =>
      match _ : skipLines false rest with
      | ']' :: left => some ([item], left)
      | ',' :: more => (items value more).map fun (found, left) => (item :: found, left)
      | _ => none
termination_by cs.length
decreasing_by
  rename_i hstart hitem hmore
  have hshort := value.shortens hitem
  have hle := skipLines_length false cs
  have hrest := skipLines_length false rest
  rw [hmore, List.length_cons] at hrest
  rw [hstart] at hle
  omega

theorem items_length {value : Reader Value} {cs left : List Char} {found : List Value}
    (hitems : items value cs = some (found, left)) : left.length < cs.length := by
  fun_induction items value cs generalizing found left with
  | case1 cs left' hstart =>
    obtain ⟨-, rfl⟩ := by simpa using hitems
    have := skipLines_length false cs
    rw [hstart, List.length_cons] at this
    omega
  | case2 => simp at hitems
  | case3 cs item rest left' hmore _ hitem =>
    obtain ⟨-, rfl⟩ := by simpa using hitems
    have := value.shortens hitem
    have := skipLines_length false cs
    have hrest := skipLines_length false rest
    rw [hmore, List.length_cons] at hrest
    omega
  | case4 cs item rest more hmore _ hitem ih =>
    obtain ⟨⟨found', left'⟩, hothers, heq⟩ := Option.map_eq_some_iff.1 hitems
    obtain ⟨-, rfl⟩ := by simpa using heq
    have := ih hothers
    have := value.shortens hitem
    have := skipLines_length false cs
    have hrest := skipLines_length false rest
    rw [hmore, List.length_cons] at hrest
    omega
  | case5 => simp at hitems

/-- An entry as it is written. -/
structure Pair where
  key : Key
  value : Value

/-- A key, an equals sign and a value. -/
def pair (value : Reader Value) : Reader Pair where
  read cs :=
    match key.read cs with
    | some (key, '=' :: rest) =>
      (value.read (skipBlank rest)).map fun (value, left) => (⟨key, value⟩, left)
    | _ => none
  shortens {cs left answer} hpair := by
    split at hpair
    next key' rest hkey =>
      obtain ⟨⟨value', left'⟩, hvalue, heq⟩ := Option.map_eq_some_iff.1 hpair
      obtain ⟨-, rfl⟩ := by simpa using heq
      have := value.shortens hvalue
      have := skipBlank_length rest
      have hrest := key.shortens hkey
      rw [List.length_cons] at hrest
      omega
    · simp at hpair

/-- The pairs of an inline table up to its end, of which there is at least one. -/
def pairs (value : Reader Value) (cs : List Char) : Option (List Pair × List Char) :=
  match _ : (pair value).read cs with
  | none => none
  | some (found, rest) =>
    match _ : skipBlank rest with
    | '\x7d' :: left => some ([found], left)
    | ',' :: more => (pairs value more).map fun (others, left) => (found :: others, left)
    | _ => none
termination_by cs.length
decreasing_by
  rename_i hpair hmore
  have hshort := (pair value).shortens hpair
  have hrest := skipBlank_length rest
  rw [hmore, List.length_cons] at hrest
  omega

theorem pairs_length {value : Reader Value} {cs left : List Char} {found : List Pair}
    (hpairs : pairs value cs = some (found, left)) : left.length < cs.length := by
  fun_induction pairs value cs generalizing found left with
  | case1 => simp at hpairs
  | case2 cs first rest hpair left' hmore =>
    obtain ⟨-, rfl⟩ := by simpa using hpairs
    have := (pair value).shortens hpair
    have hrest := skipBlank_length rest
    rw [hmore, List.length_cons] at hrest
    omega
  | case3 cs first rest hpair more hmore ih =>
    obtain ⟨⟨others, left'⟩, hothers, heq⟩ := Option.map_eq_some_iff.1 hpairs
    obtain ⟨-, rfl⟩ := by simpa using heq
    have := ih hothers
    have := (pair value).shortens hpair
    have hrest := skipBlank_length rest
    rw [hmore, List.length_cons] at hrest
    omega
  | case4 => simp at hpairs

/-- The entries of an inline table. -/
def inlineEntries (pairs : List Pair) : Option Entries :=
  pairs.foldlM (fun entries pair => Entries.put pair.key.path pair.key.last pair.value entries) []

/-- An inline table after its opening brace. -/
def inlineTable (value : Reader Value) (cs : List Char) : Option (Value × List Char) :=
  match skipBlank cs with
  | '\x7d' :: left => some (.table .inline [], left)
  | start =>
    match pairs value start with
    | some (found, left) => (inlineEntries found).map fun entries => (.table .inline entries, left)
    | none => none

theorem inlineTable_length {value : Reader Value} {cs left : List Char} {table : Value}
    (htable : inlineTable value cs = some (table, left)) : left.length < cs.length := by
  have hle := skipBlank_length cs
  unfold inlineTable at htable
  split at htable
  next left' hend =>
    obtain ⟨-, rfl⟩ := by simpa using htable
    rw [hend, List.length_cons] at hle
    omega
  next hstart =>
    split at htable
    next found left' hpairs =>
      obtain ⟨entries, -, heq⟩ := Option.map_eq_some_iff.1 htable
      obtain ⟨-, rfl⟩ := by simpa using heq
      have := pairs_length hpairs
      omega
    · simp at htable

/-- A value that may hold values which `inner` reads. -/
def nestedValue (inner : Reader Value) : List Char → Option (Value × List Char)
  | '[' :: rest => (items inner rest).map fun (found, left) => (.array found, left)
  | '\x7b' :: rest => inlineTable inner rest
  | cs => plainValue cs

theorem nestedValue_length {inner : Reader Value} {cs left : List Char} {value : Value}
    (hvalue : nestedValue inner cs = some (value, left)) : left.length < cs.length := by
  unfold nestedValue at hvalue
  split at hvalue
  next rest =>
    obtain ⟨⟨found, left'⟩, hitems, heq⟩ := Option.map_eq_some_iff.1 hvalue
    obtain ⟨-, rfl⟩ := by simpa using heq
    have := items_length hitems
    simp only [List.length_cons]
    omega
  next rest =>
    have := inlineTable_length hvalue
    simp only [List.length_cons]
    omega
  · exact plainValue_length hvalue

/-- A value with at most this many arrays and inline tables inside each other. -/
def value : (depth : Nat) → Reader Value
  | 0 => ⟨plainValue, plainValue_length⟩
  | depth + 1 => ⟨nestedValue (value depth), nestedValue_length⟩

end ForkSchedule.Toml
