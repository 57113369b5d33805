import ForkSchedule.Proofs.FormatAgreement
import ForkSchedule.Proofs.JsonSpelling
import ForkSchedule.Proofs.MemberSum

/-!
# Numbers of a document

The integer that a document gives for a field with a number is taken exactly or refused, whatever
its length and its sign. JSON knows the words of 64 bits without a sign, TOML those with a sign that
are not negative. Only in TOML is minus zero a number.
-/

namespace ForkSchedule

open Document

/-! ## Documents with one field -/

/-- The schedule with a number in one field and no other data. -/
def Schedule.onlyNumber : Field → Nat → Schedule
  | .chainId, number => { chainId := some number }
  | .point fork, number => ({} : Schedule).setPoint fork (some number)
  | _, _ => {}

example : (Field.all.filter fun field => field.kind = .number).length = 15 := by decide

namespace Field

/-- What becomes of a document that gives one field. -/
def outcome (field : Field) (found : Found) : Except Fault Schedule :=
  (field.kind.take found).map fun data => ({} : Schedule).set field data

section Number

variable {field : Field} (hkind : field.kind = .number) {value : Int}

include hkind

theorem outcome_of_nonneg (hvalue : 0 ≤ value) :
    field.outcome (.integer value) = .ok (Schedule.onlyNumber field value.toNat) := by
  cases value with
  | ofNat number => cases field with
    | chainId | point fork => rfl
    | daoForkSupport | eip150Hash => contradiction
  | negSucc number => contradiction

theorem outcome_of_neg (hvalue : value < 0) :
    field.outcome (.integer value) = .error (.negative value) := by
  cases value with
  | ofNat number => exact absurd hvalue (Int.not_lt.mpr (Int.natCast_nonneg number))
  | negSucc number => cases field with
    | chainId | point fork => rfl
    | daoForkSupport | eip150Hash => contradiction

theorem outcome_decimal : field.outcome .decimal = .error (.wrongKind .decimal .number) := by
  cases field with
  | chainId | point fork => rfl
  | daoForkSupport | eip150Hash => contradiction

end Number

end Field

namespace Json

theorem ofJson_of_isObject_singleton {given : Member} {text : String} {field : Field}
    {found : Found} (hobject : IsObject [given] text) (hfield : given.field? = some field)
    (hfound : given.found? = some found) : Schedule.ofJson text = field.outcome found := by
  rw [ofJson_of_isObject hobject, fillAll_cons, Field.outcome]
  cases htake : field.kind.take found with
  | error fault =>
      rw [fill_refused hfield List.not_mem_nil hfound htake]
      rfl
  | ok data =>
      have hname : given.name ≠ none := by
        rw [Member.field?_eq_some_iff.mp hfield]
        exact Option.some_ne_none _
      rw [fill_eq_ok_iff.mpr ⟨hname, .inr ⟨field, found, data, hfield, List.not_mem_nil, hfound,
        htake, rfl⟩⟩]
      rfl

/-- A text is an object with one member, for this field, whose value is written as this integer. -/
def HoldsNumber (field : Field) (integer : Text.Integer) (text : String) : Prop :=
  ∃ front gap back, Written [.openBrace, .text (some field.name.toList), .colon] front ∧
    IsGap gap ∧ Written [.closeBrace] back ∧
    text.toList = front ++ (gap ++ (integer.chars ++ back))

/-- The compact object with one integer is such a text. -/
theorem holdsNumber_of_eq {field : Field} {integer : Text.Integer} {text : String}
    (htext : text.toList = objectText [(field.name, integer.chars)]) :
    HoldsNumber field integer text := by
  have hgap : IsGap [] := List.forall_mem_nil _
  have hname := spelling_plainText field.plain_name
  refine ⟨_, [], _, .cons hgap .openBrace (.cons hgap hname (.cons hgap .colon (.nil hgap))), hgap,
    .cons hgap .closeBrace (.nil hgap), ?_⟩
  simp [htext, objectText, memberTexts]

/-- The member that gives an integer for a field. -/
def numberMember (field : Field) (integer : Text.Integer) : Member where
  name := some field.name.toList
  value := [.number (.ofMagnitude integer.negative integer.magnitude)]
  isValue := .scalar trivial

theorem HoldsNumber.isObject {field : Field} {integer : Text.Integer} {text : String}
    (hholds : HoldsNumber field integer text) : IsObject [numberMember field integer] text := by
  obtain ⟨front, gap, back, hfront, hgap, hback, htext⟩ := hholds
  rw [IsObject, htext]
  exact hfront.append (.cons hgap (.integer integer) hback)

theorem ofJson_of_holdsNumber {field : Field} {integer : Text.Integer} {text : String}
    (hholds : HoldsNumber field integer text) {found : Found}
    (hfound : (Token.number (.ofMagnitude integer.negative integer.magnitude)).found? =
      some found) : Schedule.ofJson text = field.outcome found :=
  ofJson_of_isObject_singleton hholds.isObject (Member.field?_eq_some_iff.mpr rfl) hfound

section Number

variable {field : Field} {integer : Text.Integer} {text : String}

theorem ofJson_of_fits (hkind : field.kind = .number) (hholds : HoldsNumber field integer text)
    (hsign : integer.negative = false) (hfits : integer.magnitude < wordLimit) :
    Schedule.ofJson text = .ok (Schedule.onlyNumber field integer.magnitude) := by
  have hfound : (Token.number (.ofMagnitude integer.negative integer.magnitude)).found? =
      some (.integer integer.magnitude) := by
    rw [hsign, Numeral.ofMagnitude, if_neg Bool.false_ne_true, if_pos hfits]
    rfl
  rw [ofJson_of_holdsNumber hholds hfound,
    Field.outcome_of_nonneg hkind (Int.natCast_nonneg integer.magnitude), Int.toNat_natCast]

/-- A sign or too many digits make a number one that is no field's. -/
theorem ofMagnitude_cases {negative : Bool} {magnitude : Nat}
    (hunfit : negative = true ∨ wordLimit ≤ magnitude) :
    Numeral.ofMagnitude negative magnitude = .decimal ∨
      ∃ value, value < 0 ∧ Numeral.ofMagnitude negative magnitude = .integer value := by
  rw [Numeral.ofMagnitude]
  cases negative with
  | true =>
      by_cases hdecimal : magnitude = 0 ∨ wordLimit / 2 < magnitude
      · rw [if_pos rfl, if_pos hdecimal]
        exact .inl rfl
      · rw [if_pos rfl, if_neg hdecimal]
        exact .inr ⟨_, by omega, rfl⟩
  | false =>
      have hlarge : ¬ magnitude < wordLimit := by simpa using hunfit
      rw [if_neg Bool.false_ne_true, if_neg hlarge]
      exact .inl rfl

theorem ofJson_of_unfit (hkind : field.kind = .number) (hholds : HoldsNumber field integer text)
    (hunfit : integer.negative = true ∨ wordLimit ≤ integer.magnitude) :
    ∃ fault, Schedule.ofJson text = .error fault := by
  rcases ofMagnitude_cases hunfit with hdecimal | ⟨value, hneg, hvalue⟩
  · rw [ofJson_of_holdsNumber hholds (by rw [hdecimal]; rfl), Field.outcome_decimal hkind]
    exact ⟨_, rfl⟩
  · rw [ofJson_of_holdsNumber hholds (by rw [hvalue]; rfl), Field.outcome_of_neg hkind hneg]
    exact ⟨_, rfl⟩

end Number

end Json

namespace Toml

theorem takeEntry_refused {field : Field} {value : Value} {fault : Fault}
    (htake : field.kind.take value.found = .error fault) (built : Schedule) :
    takeEntry Schedule.layout built (field.name.toList, value) = .error fault := by
  have hcontent : content field.slot.content value = .error fault :=
    congrArg (Except.map _) htake
  simp only [takeEntry, Field.slot?_name, hcontent]

theorem ofToml_of_line {field : Field} {content : List Char} {text : String} {value : Value}
    (hlines : IsLines [(field.name, content)] text.toList)
    (hdenotes : Denotes content (some value)) :
    Schedule.ofToml text = field.outcome value.found := by
  have hgives : Gives (field.name, content) (field.name.toList, value) :=
    ⟨field.isBareKey_name, rfl, hdenotes⟩
  have hentries := entries?_of_lines hlines (.cons hgives .nil) (List.nodup_singleton _)
  rw [Schedule.ofToml, record, hentries, Field.outcome]
  simp only [List.foldlM_cons, List.foldlM_nil]
  cases htake : field.kind.take value.found with
  | ok data =>
      rw [Field.takeEntry_name htake]
      rfl
  | error fault =>
      rw [takeEntry_refused htake]
      rfl

theorem ofToml_of_noValue {field : Field} {content : List Char} {text : String}
    (hlines : IsLines [(field.name, content)] text.toList) (hdenotes : Denotes content none) :
    Schedule.ofToml text = .error .malformed := by
  rw [Schedule.ofToml, record, entries?_eq_none hlines field.isBareKey_name hdenotes]

/-- An integer fits a word with a sign or is none. -/
theorem signedWord?_integer (integer : Text.Integer) :
    signedWord? integer.negative integer.magnitude =
      if -9223372036854775808 ≤ integer.value ∧ integer.value ≤ 9223372036854775807 then
        some integer.value else none := by
  have hhalf : wordLimit / 2 = 9223372036854775808 := rfl
  rw [signedWord?, Text.Integer.value, hhalf]
  cases integer.negative with
  | true =>
      by_cases hfits : integer.magnitude ≤ 9223372036854775808
      · rw [if_pos rfl, if_pos hfits, if_pos rfl, if_pos (by omega)]
      · rw [if_pos rfl, if_neg hfits, if_pos rfl, if_neg (by omega)]
  | false =>
      simp only [Bool.false_eq_true, if_false]
      by_cases hfits : integer.magnitude < 9223372036854775808
      · rw [if_pos hfits, if_pos (by omega)]
      · rw [if_neg hfits, if_neg (by omega)]

section Number

variable {field : Field} {integer : Text.Integer} {text : String}

theorem ofToml_of_fits (hkind : field.kind = .number)
    (hlines : IsLines [(field.name, integer.chars)] text.toList) (hnonneg : 0 ≤ integer.value)
    (hfits : integer.value ≤ 9223372036854775807) :
    Schedule.ofToml text = .ok (Schedule.onlyNumber field integer.magnitude) := by
  have hdenotes := denotes_integer integer
  rw [signedWord?_integer, if_pos ⟨by omega, hfits⟩] at hdenotes
  rw [ofToml_of_line hlines hdenotes, Value.found, Field.outcome_of_nonneg hkind hnonneg,
    integer.toNat_value hnonneg]

theorem ofToml_of_unfit (hkind : field.kind = .number)
    (hlines : IsLines [(field.name, integer.chars)] text.toList)
    (hunfit : integer.value < 0 ∨ 9223372036854775807 < integer.value) :
    ∃ fault, Schedule.ofToml text = .error fault := by
  have hdenotes := denotes_integer integer
  rw [signedWord?_integer] at hdenotes
  split at hdenotes
  next hword =>
    have hneg : integer.value < 0 := by omega
    rw [ofToml_of_line hlines hdenotes, Value.found, Field.outcome_of_neg hkind hneg]
    exact ⟨_, rfl⟩
  · exact ⟨_, ofToml_of_noValue hlines hdenotes⟩

end Number

end Toml

/-- An integer that a document gives for a field with a number, and that alone, is taken exactly or
refused. In JSON it is taken if it has no sign and fits a word of 64 bits; in TOML, if it is not
negative and fits such a word with a sign. -/
theorem numbers_exact_or_refused {field : Field} (hkind : field.kind = .number)
    (integer : Text.Integer) :
    (∀ text, Json.HoldsNumber field integer text →
      (integer.negative = false ∧ integer.magnitude ≤ 18446744073709551615 →
        Schedule.ofJson text = .ok (Schedule.onlyNumber field integer.magnitude)) ∧
      (integer.negative = true ∨ 18446744073709551615 < integer.magnitude →
        ∃ fault, Schedule.ofJson text = .error fault)) ∧
    ∀ text, Toml.IsLines [(field.name, integer.chars)] text.toList →
      (0 ≤ integer.value ∧ integer.value ≤ 9223372036854775807 →
        Schedule.ofToml text = .ok (Schedule.onlyNumber field integer.magnitude)) ∧
      (integer.value < 0 ∨ 9223372036854775807 < integer.value →
        ∃ fault, Schedule.ofToml text = .error fault) := by
  constructor
  · intro text hholds
    constructor
    · rintro ⟨hsign, hfits⟩
      exact Json.ofJson_of_fits hkind hholds hsign (Nat.lt_succ_of_le hfits)
    · intro hunfit
      exact Json.ofJson_of_unfit hkind hholds (hunfit.imp_right Nat.succ_le_of_lt)
  · intro text hlines
    constructor
    · rintro ⟨hnonneg, hfits⟩
      exact Toml.ofToml_of_fits hkind hlines hnonneg hfits
    · intro hunfit
      exact Toml.ofToml_of_unfit hkind hlines hunfit

/-- The largest number of either format, minus zero in both, and a number beyond the limit. -/
theorem numbers_at_limits :
    Schedule.ofJson "\x7b\x22istanbulBlock\x22:18446744073709551615\x7d" =
      .ok { istanbul := some 18446744073709551615 } ∧
    (∃ fault, Schedule.ofJson "\x7b\x22istanbulBlock\x22:-0\x7d" = .error fault) ∧
    Schedule.ofToml "istanbulBlock = -0\n" = .ok { istanbul := some 0 } ∧
    ∃ fault, Schedule.ofToml "istanbulBlock = 9223372036854775808\n" = .error fault := by
  let minusZero : Text.Integer := ⟨true, ['0'], by simp, by simp, by simp⟩
  have hlargest : Json.HoldsNumber (.point .istanbul) (.ofNat 18446744073709551615)
      "\x7b\x22istanbulBlock\x22:18446744073709551615\x7d" :=
    Json.holdsNumber_of_eq (by decide +kernel)
  have hminus : Json.HoldsNumber (.point .istanbul) minusZero
      "\x7b\x22istanbulBlock\x22:-0\x7d" :=
    Json.holdsNumber_of_eq (by decide +kernel)
  have hzero : Toml.IsLines [((Field.point .istanbul).name, minusZero.chars)]
      "istanbulBlock = -0\n".toList :=
    Toml.isLines_of_eq (by decide +kernel)
  have hbeyond : Toml.IsLines
      [((Field.point .istanbul).name, (Text.Integer.ofNat 9223372036854775808).chars)]
      "istanbulBlock = 9223372036854775808\n".toList :=
    Toml.isLines_of_eq (by decide +kernel)
  refine ⟨?_, ?_, ?_, ?_⟩
  · exact ((numbers_exact_or_refused rfl _).1 _ hlargest).1 (by decide +kernel)
  · exact ((numbers_exact_or_refused rfl _).1 _ hminus).2 (by decide +kernel)
  · exact ((numbers_exact_or_refused rfl _).2 _ hzero).1 (by decide +kernel)
  · exact ((numbers_exact_or_refused rfl _).2 _ hbeyond).2 (by decide +kernel)

end ForkSchedule
