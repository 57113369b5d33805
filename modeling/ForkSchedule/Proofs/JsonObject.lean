import ForkSchedule.Proofs.JsonMember

/-!
# Schedule documents as lists of members

What a schedule document says is told by its members one after the other: they fill in fields until
one of them is refused. Every text that is accepted as an object is written that way.
-/

namespace ForkSchedule.Json

open Document

/-! ## What an object says -/

/-- The outcome of filling in members one after the other. -/
def fillAll (built : Filling Schedule) (members : List Member) :
    Except Fault (Filling Schedule) :=
  members.foldlM Member.fill built

theorem fillAll_cons (built : Filling Schedule) (given : Member) (others : List Member) :
    fillAll built (given :: others) =
      match given.fill built with
      | .ok next => fillAll next others
      | .error fault => .error fault := by
  rw [fillAll, List.foldlM_cons]
  cases given.fill built <;> rfl

theorem reads_members_of_fillAll {given : Member} {others : List Member}
    {built filled : Filling Schedule} (hfill : fillAll built (given :: others) = .ok filled)
    (left : List Token) :
    Reads (members Schedule.layout built) (given.tokens ++ (restOfObject others ++ left))
      filled.value left := by
  induction others generalizing given built with
  | nil =>
      rw [fillAll_cons] at hfill
      split at hfill
      next hnext =>
        cases hfill
        exact reads_members_last (reads_of_fill hnext _)
      · contradiction
  | cons second others ih =>
      rw [fillAll_cons] at hfill
      split at hfill
      next hnext =>
        rw [restOfObject, List.cons_append, List.append_assoc]
        exact reads_members_more (reads_of_fill hnext _) (ih hfill)
      · contradiction

theorem members_of_fillAll {given : Member} {others : List Member} {built : Filling Schedule}
    {fault : Fault} (hfill : fillAll built (given :: others) = .error fault) (left : List Token) :
    members Schedule.layout built (given.tokens ++ (restOfObject others ++ left)) =
      .error fault := by
  induction others generalizing given built with
  | nil =>
      rw [fillAll_cons] at hfill
      split at hfill
      · contradiction
      next hrefused =>
        cases hfill
        exact members_refused_first (member_of_fill hrefused _)
  | cons second others ih =>
      rw [fillAll_cons] at hfill
      split at hfill
      next hnext =>
        rw [restOfObject, List.cons_append, List.append_assoc]
        exact members_refused_later (reads_of_fill hnext _) (ih hfill)
      next hrefused =>
        cases hfill
        exact members_refused_first (member_of_fill hrefused _)

theorem onlyValue_of_error {α : Type} {reader : Reader α} {tokens : List Token} {fault : Fault}
    (hread : reader tokens = .error fault) : onlyValue reader tokens = .error fault := by
  rw [onlyValue, hread]

/-- A schedule document that is an object says what its members say in their order. -/
theorem ofJson_of_isObject {given : List Member} {text : String} (hobject : IsObject given text) :
    Schedule.ofJson text = (fillAll ⟨{}, []⟩ given).map Filling.value := by
  rw [Schedule.ofJson, whole, tokens_of_isObject hobject]
  cases given with
  | nil => exact onlyValue_of_reads (reads_record_empty [])
  | cons first others =>
      rw [objectTokens, ← List.append_nil (restOfObject others)]
      cases hfill : fillAll ⟨{}, []⟩ (first :: others) with
      | ok filled => exact onlyValue_of_reads (reads_record (reads_members_of_fillAll hfill []))
      | error fault =>
          exact onlyValue_of_error (record_refused (members_of_fillAll hfill []))

/-! ## Every accepted object is written as one -/

theorem exists_of_unknownMember {tokens : List Token} {left : Left tokens}
    (hread : unknownMember tokens = .ok ((), left)) :
    ∃ value, IsValue value ∧ tokens = .colon :: (value ++ left.val) := by
  unfold unknownMember at hread
  split at hread
  next rest =>
    split at hread
    next after hskip =>
      cases hread
      obtain ⟨value, hvalue, rfl⟩ := exists_of_skip hskip
      exact ⟨value, hvalue, rfl⟩
    · contradiction
  · contradiction

theorem Token.isScalar_of_found? {token : Token} {found : Found}
    (hfound : token.found? = some found) (hsequence : found ≠ .sequence) (hmap : found ≠ .map) :
    token.IsScalar := by
  cases token with
  | null | boolean _ | number _ | text _ => trivial
  | openBracket =>
      cases hfound
      contradiction
  | openBrace =>
      cases hfound
      contradiction
  | _ => contradiction

theorem exists_of_scalar {field : Field} {tokens : List Token} {left : Left tokens}
    {update : Schedule → Schedule}
    (hread : content field.slot.content tokens = .ok (update, left)) :
    ∃ value, IsValue value ∧ tokens = value ++ left.val := by
  change scalar _ tokens = _ at hread
  unfold scalar at hread
  split at hread
  · contradiction
  next token rest =>
    split at hread
    · contradiction
    next found hfound =>
      split at hread
      next taken htaken =>
        cases hread
        cases htake : field.kind.take found with
        | error fault =>
            simp only [htake] at htaken
            contradiction
        | ok data =>
            obtain ⟨hsequence, hmap⟩ := Field.Kind.single_of_take htake
            exact ⟨[token], .scalar (Token.isScalar_of_found? hfound hsequence hmap), rfl⟩
      · contradiction

theorem exists_of_knownMember {field : Field} {tokens : List Token} {left : Left tokens}
    {update : Schedule → Schedule} (hread : knownMember field.slot tokens = .ok (update, left)) :
    ∃ value, IsValue value ∧ tokens = .colon :: (value ++ left.val) := by
  unfold knownMember at hread
  split at hread
  next rest =>
    split at hread
    next update after hcontent =>
      cases hread
      obtain ⟨value, hvalue, hrest⟩ := exists_of_scalar hcontent
      exact ⟨value, hvalue, congrArg (Token.colon :: ·) hrest⟩
    · contradiction
  · contradiction

theorem exists_of_member {built next : Filling Schedule} {tokens : List Token}
    {left : Left tokens} (hread : member Schedule.layout built tokens = .ok (next, left)) :
    ∃ given : Member, tokens = given.tokens ++ left.val := by
  unfold member at hread
  split at hread
  next name rest =>
    rw [Field.layout_slot?] at hread
    cases hfield : Field.ofName? name with
    | none =>
      rw [hfield] at hread
      simp only [Option.map_none] at hread
      split at hread
      next after hunknown =>
        cases hread
        obtain ⟨value, hvalue, hrest⟩ := exists_of_unknownMember hunknown
        exact ⟨⟨some name, value, hvalue⟩, congrArg (Token.text (some name) :: ·) hrest⟩
      · contradiction
    | some field =>
      rw [hfield] at hread
      simp only [Option.map_some] at hread
      split at hread
      · contradiction
      · split at hread
        next update after hknown =>
          cases hread
          obtain ⟨value, hvalue, hrest⟩ := exists_of_knownMember hknown
          exact ⟨⟨some name, value, hvalue⟩, congrArg (Token.text (some name) :: ·) hrest⟩
        · contradiction
  · contradiction

theorem exists_of_members {built : Filling Schedule} {tokens : List Token} {schedule : Schedule}
    {left : Left tokens} (hread : members Schedule.layout built tokens = .ok (schedule, left)) :
    ∃ given others, tokens = Member.tokens given ++ (restOfObject others ++ left.val) := by
  fun_induction members Schedule.layout built tokens with
  | case1 => contradiction
  | case2 built tokens next rest hrest hmember value after hmembers ih =>
    cases hread
    obtain ⟨given, htokens⟩ := exists_of_member hmember
    obtain ⟨second, others, hothers⟩ := ih hmembers
    refine ⟨given, second :: others, htokens.trans ?_⟩
    simp only [restOfObject, List.cons_append, List.append_assoc]
    exact congrArg (fun rest => given.tokens ++ Token.comma :: rest) hothers
  | case3 => contradiction
  | case4 built tokens next rest hrest hmember =>
    cases hread
    obtain ⟨given, htokens⟩ := exists_of_member hmember
    exact ⟨given, [], htokens⟩
  | case5 => contradiction

theorem exists_of_record {tokens : List Token} {schedule : Schedule} {left : Left tokens}
    (hread : record Schedule.layout tokens = .ok (schedule, left))
    (hbrace : tokens.head? = some .openBrace) :
    ∃ given, tokens = objectTokens given ++ left.val := by
  unfold record at hread
  split at hread
  · cases hread
    exact ⟨[], rfl⟩
  · split at hread
    next hmembers =>
      cases hread
      obtain ⟨given, others, hrest⟩ := exists_of_members hmembers
      refine ⟨given :: others, ?_⟩
      simp only [objectTokens, List.cons_append, List.append_assoc]
      exact congrArg (Token.openBrace :: ·) hrest
    · contradiction
  · cases hbrace
  · cases hbrace
  · contradiction

theorem broken_notMem {phrase : Phrase} {tokens : List Token} (hderives : Derives phrase tokens) :
    .broken ∉ tokens := by
  induction hderives with
  | @scalar token hscalar =>
    rw [List.mem_singleton]
    rintro rfl
    exact hscalar
  | _ => simp_all

theorem isObject_of_tokens {members : List Member} {text : String}
    (htokens : tokens text.toList = objectTokens members) : IsObject members text := by
  have hbroken : .broken ∉ tokens text.toList :=
    htokens ▸ broken_notMem (isValue_objectTokens members)
  rw [IsObject, ← htokens]
  exact written_tokens hbroken

/-- Every text that is accepted as an object is an object with some members. -/
theorem exists_isObject {text : String} {schedule : Schedule}
    (hread : Schedule.ofJson text = .ok schedule)
    (hbrace : (text.toList.dropWhile isSpace).head? = some '\x7b') :
    ∃ given, IsObject given text := by
  have hstart : (tokens text.toList).head? = some .openBrace := by
    obtain ⟨rest, hrest⟩ := List.head?_eq_some_iff.mp hbrace
    rw [tokens_eq, hrest]
    rfl
  rw [Schedule.ofJson, whole, onlyValue] at hread
  split at hread
  next hrecord =>
    obtain ⟨given, htokens⟩ := exists_of_record hrecord hstart
    rw [List.append_nil] at htokens
    exact ⟨given, isObject_of_tokens htokens⟩
  · contradiction
  · contradiction

end ForkSchedule.Json
