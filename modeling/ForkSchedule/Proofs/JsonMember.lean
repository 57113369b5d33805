import ForkSchedule.Proofs.DocumentText
import ForkSchedule.Proofs.JsonTokens
import ForkSchedule.Proofs.JsonValue

/-!
# Members of JSON objects

An object is the list of its members, each a name and a value. A member of a schedule document fills
in the field that it names, or nothing if it names none, or it is refused for what it gives.
-/

namespace ForkSchedule

open Document

/-! ## Objects -/

namespace Json

/-- A member of an object. It has no name if an escape in its key is half of a surrogate pair. -/
structure Member where
  name : Option (List Char)
  value : List Token
  isValue : IsValue value

/-- The tokens of a member. -/
def Member.tokens (member : Member) : List Token := .text member.name :: .colon :: member.value

/-- The tokens behind a member of an object, up to its end. -/
def restOfObject : List Member → List Token
  | [] => [.closeBrace]
  | member :: others => .comma :: (member.tokens ++ restOfObject others)

/-- The tokens of an object. -/
def objectTokens : List Member → List Token
  | [] => [.openBrace, .closeBrace]
  | member :: others => .openBrace :: (member.tokens ++ restOfObject others)

/-- A text is an object with these members in order, however its tokens are written. -/
def IsObject (members : List Member) (text : String) : Prop :=
  Written (objectTokens members) text.toList

theorem derives_restOfObject (members : List Member) :
    Derives .members (restOfObject members) := by
  induction members with
  | nil => exact .endObject
  | cons member others ih => exact .nextMember member.name member.isValue ih

theorem isValue_objectTokens (members : List Member) : IsValue (objectTokens members) := by
  cases members with
  | nil => exact .emptyObject
  | cons member others =>
      exact .object member.name member.isValue (derives_restOfObject others)

theorem tokens_of_isObject {members : List Member} {text : String}
    (hobject : IsObject members text) : tokens text.toList = objectTokens members :=
  tokens_of_written hobject (isValue_objectTokens members).numbersApart

/-- What a member shows of its value, unless that is a string without characters. -/
def Member.found? (member : Member) : Option Found := member.value.head?.bind Token.found?

/-- Only arrays and objects go on behind their first token. -/
theorem IsValue.eq_singleton {token : Token} {rest : List Token} {found : Found}
    (hvalue : IsValue (token :: rest)) (hfound : token.found? = some found)
    (hsequence : found ≠ .sequence) (hmap : found ≠ .map) : rest = [] := by
  cases hvalue with
  | scalar _ => rfl
  | emptyArray | array _ _ =>
      cases hfound
      contradiction
  | emptyObject | object _ _ _ =>
      cases hfound
      contradiction

/-! ## Reading single members -/

section Reading

variable {ρ : Type} {shape : Record ρ} {built next : Filling ρ} {slot : Slot ρ} {name : List Char}
  {fault : Fault} {tokens left : List Token}

theorem reads_unknownMember (hskip : skip tokens = some left) :
    Reads unknownMember (.colon :: tokens) () left := by
  refine ⟨Left.cons ⟨left, skip_length hskip⟩, ?_, rfl⟩
  rw [unknownMember]
  split
  next after hother =>
    rw [hskip] at hother
    cases hother
    rfl
  next hnone =>
    rw [hskip] at hnone
    contradiction

theorem reads_member_unknown (hslot : shape.slot? name = none) (hskip : skip tokens = some left) :
    Reads (member shape built) (.text (some name) :: .colon :: tokens) built left := by
  obtain ⟨after, hread, rfl⟩ := reads_unknownMember hskip
  refine ⟨after.cons, ?_, rfl⟩
  simp only [member, hslot, hread]

theorem member_duplicate (hslot : shape.slot? name = some slot) (hgiven : slot.name ∈ built.given)
    (rest : List Token) :
    member shape built (.text (some name) :: rest) = .error (.duplicate slot.name) := by
  simp only [member, hslot, if_pos hgiven]

theorem member_refused (hslot : shape.slot? name = some slot) (hfresh : slot.name ∉ built.given)
    (hcontent : content slot.content tokens = .error fault) :
    member shape built (.text (some name) :: .colon :: tokens) = .error fault := by
  simp only [member, hslot, if_neg hfresh, knownMember, hcontent]

theorem members_refused_first (hmember : member shape built tokens = .error fault) :
    members shape built tokens = .error fault := by
  rw [members, hmember]

theorem members_refused_later (hmember : Reads (member shape built) tokens next (.comma :: left))
    (hmembers : members shape next left = .error fault) :
    members shape built tokens = .error fault := by
  obtain ⟨⟨after, hafter⟩, hread, rfl⟩ := hmember
  rw [members, hread]
  simp only [hmembers]

theorem record_refused {content : Option (List Char)}
    (hmembers : members shape ⟨shape.empty, []⟩ (.text content :: tokens) = .error fault) :
    record shape (.openBrace :: .text content :: tokens) = .error fault := by
  rw [record, hmembers]
  rintro rest ⟨⟩

theorem scalar_refused {α : Type} {take : Found → Except Fault α} {token : Token} {found : Found}
    (hfound : token.found? = some found) (htake : take found = .error fault) (rest : List Token) :
    scalar take (token :: rest) = .error fault := by
  simp only [scalar, hfound, htake]

theorem scalar_unfound {α : Type} {take : Found → Except Fault α} {token : Token}
    (hfound : token.found? = none) (rest : List Token) :
    scalar take (token :: rest) = .error .malformed := by
  simp only [scalar, hfound]

end Reading

end Json

/-! ## What a member says of a schedule -/

namespace Field

theorem slot?_of_ofName? {name : List Char} {field : Field} (hfield : ofName? name = some field) :
    Schedule.layout.slot? name = some field.slot := by
  rw [layout_slot?, hfield]
  rfl

/-- No field is given as an array or an object. -/
theorem Kind.single_of_take {kind : Kind} {found : Found} {data : kind.Data}
    (htake : kind.take found = .ok data) : found ≠ .sequence ∧ found ≠ .map := by
  cases kind <;> constructor <;> rintro rfl <;> contradiction

end Field

namespace Json

/-- What a member makes of a schedule of which some fields have been given. -/
def Member.fill (built : Filling Schedule) (given : Member) : Except Fault (Filling Schedule) :=
  match given.name with
  | none => .error .malformed
  | some name =>
    match Field.ofName? name with
    | none => .ok built
    | some field =>
      if field.name ∈ built.given then .error (.duplicate field.name)
      else
        match given.found? with
        | none => .error .malformed
        | some found =>
          match field.kind.take found with
          | .ok data => .ok ⟨built.value.set field data, field.name :: built.given⟩
          | .error fault => .error fault

section Fill

variable {built next : Filling Schedule} {given : Member}

theorem Member.tokens_append {name : Option (List Char)} (hname : given.name = name)
    (left : List Token) :
    given.tokens ++ left = .text name :: .colon :: (given.value ++ left) := by
  rw [Member.tokens, hname]
  rfl

theorem Member.exists_value (given : Member) :
    ∃ token rest, given.value = token :: rest ∧ given.found? = token.found? := by
  obtain ⟨token, rest, hvalue, -⟩ := given.isValue.exists_cons
  exact ⟨token, rest, hvalue, by rw [Member.found?, hvalue]; rfl⟩

/-- A member that fills in something is read, and nothing behind it. -/
theorem reads_of_fill (hfill : given.fill built = .ok next) (left : List Token) :
    Reads (member Schedule.layout built) (given.tokens ++ left) next left := by
  revert hfill
  fun_cases Member.fill built given with
  | case1 | case3 | case4 | case6 => rintro ⟨⟩
  | case2 name hname hfield =>
      rintro ⟨⟩
      rw [Member.tokens_append hname]
      exact reads_member_unknown (by rw [Field.layout_slot?, hfield]; rfl)
        (skip_append given.isValue left)
  | case5 name hname field hfield hfresh found hfound data htake =>
      rintro ⟨⟩
      obtain ⟨token, rest, hvalue, hsame⟩ := given.exists_value
      obtain ⟨hsequence, hmap⟩ := Field.Kind.single_of_take htake
      have htoken : token.found? = some found := hsame.symm.trans hfound
      obtain rfl := (hvalue ▸ given.isValue).eq_singleton htoken hsequence hmap
      have hcontent : Reads (content field.slot.content) (token :: left)
          (fun schedule => schedule.set field data) left :=
        reads_scalar htoken (by rw [htake]; rfl) left
      rw [Member.tokens_append hname, hvalue]
      exact reads_member (Field.slot?_of_ofName? hfield) hfresh hcontent

/-- A member that is refused is refused for the same reason whatever stands behind it. -/
theorem member_of_fill {fault : Fault} (hfill : given.fill built = .error fault)
    (left : List Token) :
    member Schedule.layout built (given.tokens ++ left) = .error fault := by
  obtain ⟨token, rest, hvalue, hsame⟩ := given.exists_value
  revert hfill
  fun_cases Member.fill built given with
  | case2 | case5 => rintro ⟨⟩
  | case1 hname =>
      rintro ⟨⟩
      rw [Member.tokens_append hname]
      rfl
  | case3 name hname field hfield hgiven =>
      rintro ⟨⟩
      rw [Member.tokens_append hname]
      exact member_duplicate (Field.slot?_of_ofName? hfield) hgiven _
  | case4 name hname field hfield hfresh hfound =>
      rintro ⟨⟩
      have hcontent : content field.slot.content (token :: (rest ++ left)) = .error .malformed :=
        scalar_unfound (hsame.symm.trans hfound) _
      rw [Member.tokens_append hname, hvalue]
      exact member_refused (Field.slot?_of_ofName? hfield) hfresh hcontent
  | case6 name hname field hfield hfresh found hfound fault htake =>
      rintro ⟨⟩
      have hcontent : content field.slot.content (token :: (rest ++ left)) = .error fault :=
        scalar_refused (hsame.symm.trans hfound) (by rw [htake]; rfl) _
      rw [Member.tokens_append hname, hvalue]
      exact member_refused (Field.slot?_of_ofName? hfield) hfresh hcontent

end Fill

end Json

end ForkSchedule
