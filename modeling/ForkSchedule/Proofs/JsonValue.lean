import ForkSchedule.Proofs.JsonGrammar
import ForkSchedule.Json.Skip

/-!
# The grammar of JSON values

Which lists of tokens are a value, whatever is nested in it. Skipping passes over exactly the
values of the grammar: it stops at the end of every value and accepts nothing else.
-/

namespace ForkSchedule.Json

/-! ## The grammar -/

/-- What a list of tokens can be a case of. -/
inductive Phrase where
  | value
  /-- The rest of an array behind one of its items. -/
  | items
  /-- The rest of an object behind one of its members. -/
  | members

/-- Whether a token is a value by itself. -/
def Token.IsScalar : Token → Prop
  | .null | .boolean _ | .number _ | .text _ => True
  | _ => False

/-- The tokens that a phrase can consist of. The name of a member may be any string. -/
inductive Derives : Phrase → List Token → Prop
  | scalar {token : Token} (hscalar : token.IsScalar) : Derives .value [token]
  | emptyArray : Derives .value [.openBracket, .closeBracket]
  | array {item rest : List Token} (hitem : Derives .value item) (hrest : Derives .items rest) :
      Derives .value (.openBracket :: (item ++ rest))
  | emptyObject : Derives .value [.openBrace, .closeBrace]
  | object (name : Option (List Char)) {value rest : List Token} (hvalue : Derives .value value)
      (hrest : Derives .members rest) :
      Derives .value (.openBrace :: .text name :: .colon :: (value ++ rest))
  | endArray : Derives .items [.closeBracket]
  | nextItem {item rest : List Token} (hitem : Derives .value item) (hrest : Derives .items rest) :
      Derives .items (.comma :: (item ++ rest))
  | endObject : Derives .members [.closeBrace]
  | nextMember (name : Option (List Char)) {value rest : List Token}
      (hvalue : Derives .value value) (hrest : Derives .members rest) :
      Derives .members (.comma :: .text name :: .colon :: (value ++ rest))

/-- Whether a list of tokens is a value. -/
def IsValue (tokens : List Token) : Prop := Derives .value tokens

/-! ## Values and the numbers in them -/

/-- What is known of the first token of a phrase. -/
def Phrase.Starts : Phrase → Token → Prop
  | .value, token => token ≠ .closeBracket
  | _, token => token.isNumber = false

theorem Derives.exists_cons {phrase : Phrase} {tokens : List Token}
    (hderives : Derives phrase tokens) :
    ∃ token rest, tokens = token :: rest ∧ phrase.Starts token := by
  cases hderives with
  | @scalar token hscalar =>
      refine ⟨token, [], rfl, ?_⟩
      rintro rfl
      exact hscalar
  | endArray | nextItem _ _ | endObject | nextMember _ _ _ => exact ⟨_, _, rfl, rfl⟩
  | _ => exact ⟨_, _, rfl, nofun⟩

theorem NumbersApart.cons {token : Token} {tokens : List Token} (htoken : token.isNumber = false)
    (hapart : NumbersApart tokens) : NumbersApart (token :: tokens) :=
  List.isChain_cons.mpr ⟨fun _ _ hnumber => by simp [htoken] at hnumber, hapart⟩

theorem NumbersApart.append {tokens rest : List Token} (hapart : NumbersApart tokens)
    (hrest : NumbersApart rest) (hhead : ∀ token ∈ rest.head?, token.isNumber = false) :
    NumbersApart (tokens ++ rest) :=
  List.isChain_append.mpr ⟨hapart, hrest, fun _ _ next hnext _ => hhead next hnext⟩

theorem Derives.isNumber_head? {phrase : Phrase} {tokens : List Token}
    (hderives : Derives phrase tokens) (hphrase : phrase ≠ .value) :
    ∀ token ∈ tokens.head?, token.isNumber = false := by
  obtain ⟨first, rest, rfl, hstarts⟩ := hderives.exists_cons
  rintro token ⟨⟩
  cases phrase with
  | value => contradiction
  | items | members => exact hstarts

/-- In every phrase there is punctuation between two numbers. -/
theorem Derives.numbersApart {phrase : Phrase} {tokens : List Token}
    (hderives : Derives phrase tokens) : NumbersApart tokens := by
  induction hderives with
  | scalar _ | endArray | endObject => exact .singleton _
  | emptyArray | emptyObject => exact .cons rfl (.singleton _)
  | array _ hrest ihItem ihRest | nextItem _ hrest ihItem ihRest =>
      exact .cons rfl (ihItem.append ihRest (hrest.isNumber_head? nofun))
  | object _ _ hrest ihValue ihRest | nextMember _ _ hrest ihValue ihRest =>
      exact .cons rfl (.cons rfl (.cons rfl (ihValue.append ihRest (hrest.isNumber_head? nofun))))

/-! ## Skipping stops at the end of a value -/

/-- What is passed over when a phrase comes next. -/
def Skips : Phrase → List Token → Prop
  | .value, tokens => ∀ frames rest,
      skipFrom true frames (tokens ++ rest) = skipFrom false frames rest
  | .items, tokens => ∀ frames rest,
      skipFrom false (.array :: frames) (tokens ++ rest) = skipFrom false frames rest
  | .members, tokens => ∀ frames rest,
      skipFrom false (.object :: frames) (tokens ++ rest) = skipFrom false frames rest

theorem Derives.skips {phrase : Phrase} {tokens : List Token} (hderives : Derives phrase tokens) :
    Skips phrase tokens := by
  induction hderives with
  | @scalar token hscalar =>
      intro frames rest
      cases token <;> first | contradiction | rfl
  | emptyArray | emptyObject | endArray | endObject =>
      intro frames rest
      rfl
  | array hitem _ ihItem ihRest =>
      -- The first item is no end of an array, so that the array is not taken for an empty one.
      intro frames rest
      obtain ⟨token, more, rfl, hstarts⟩ := hitem.exists_cons
      rw [List.cons_append, List.append_assoc, skipFrom, ihItem, ihRest]
      rintro others ⟨⟩
      exact hstarts rfl
  | object _ _ _ ihValue ihRest | nextMember _ _ _ ihValue ihRest =>
      intro frames rest
      simp only [List.cons_append, List.append_assoc]
      rw [skipFrom, ihValue, ihRest]
  | nextItem _ _ ihItem ihRest =>
      intro frames rest
      rw [List.cons_append, List.append_assoc, skipFrom, ihItem, ihRest]

theorem skip_append {value : List Token} (hvalue : IsValue value) (rest : List Token) :
    skip (value ++ rest) = some rest :=
  (hvalue.skips [] rest).trans (by rw [skipFrom])

/-! ## Skipping accepts only values -/

/-- The phrase that ends an open array or object. -/
def Frame.phrase : Frame → Phrase
  | .array => .items
  | .object => .members

/-- The tokens that phrases can consist of, one after the other. -/
inductive DerivesAll : List Phrase → List Token → Prop
  | nil : DerivesAll [] []
  | cons {phrase : Phrase} {phrases : List Phrase} {front rest : List Token}
      (hfront : Derives phrase front) (hrest : DerivesAll phrases rest) :
      DerivesAll (phrase :: phrases) (front ++ rest)

theorem DerivesAll.scalar {token : Token} {phrases : List Phrase} {used : List Token}
    (hscalar : token.IsScalar) (hused : DerivesAll phrases used) :
    DerivesAll (.value :: phrases) (token :: used) :=
  .cons (.scalar hscalar) hused

theorem DerivesAll.exists_two {phrase next : Phrase} {phrases : List Phrase} {used : List Token}
    (hused : DerivesAll (phrase :: next :: phrases) used) :
    ∃ first second others, used = first ++ (second ++ others) ∧ Derives phrase first ∧
      Derives next second ∧ DerivesAll phrases others := by
  cases hused with
  | cons hfirst hrest =>
      cases hrest with
      | cons hsecond hothers => exact ⟨_, _, _, rfl, hfirst, hsecond, hothers⟩

/-- The phrases that are still to come while a value is skipped. -/
def expected (ready : Bool) (frames : List Frame) : List Phrase :=
  if ready then .value :: frames.map Frame.phrase else frames.map Frame.phrase

theorem exists_of_skipFrom {ready : Bool} {frames : List Frame} {tokens left : List Token}
    (hskip : skipFrom ready frames tokens = some left) :
    ∃ used, tokens = used ++ left ∧ DerivesAll (expected ready frames) used := by
  -- A frame that is opened or goes on makes two phrases to come, which are one from outside.
  fun_induction skipFrom ready frames tokens with
  | case9 | case15 => contradiction
  | case10 rest =>
      cases hskip
      exact ⟨[], rfl, .nil⟩
  | case1 _ _ ih | case2 _ _ _ ih | case3 _ _ _ ih | case4 _ _ _ ih =>
      obtain ⟨used, rfl, hused⟩ := ih hskip
      exact ⟨_ :: used, rfl, .scalar trivial hused⟩
  | case5 _ _ ih =>
      obtain ⟨used, rfl, hused⟩ := ih hskip
      exact ⟨_, rfl, .cons .emptyArray hused⟩
  | case7 _ _ ih =>
      obtain ⟨used, rfl, hused⟩ := ih hskip
      exact ⟨_, rfl, .cons .emptyObject hused⟩
  | case12 _ _ ih =>
      obtain ⟨used, rfl, hused⟩ := ih hskip
      exact ⟨_, rfl, .cons .endArray hused⟩
  | case14 _ _ ih =>
      obtain ⟨used, rfl, hused⟩ := ih hskip
      exact ⟨_, rfl, .cons .endObject hused⟩
  | case6 _ _ _ ih =>
      obtain ⟨used, rfl, hused⟩ := ih hskip
      obtain ⟨item, items, others, rfl, hitem, hitems, hothers⟩ := hused.exists_two
      exact ⟨_, by simp, .cons (.array hitem hitems) hothers⟩
  | case8 _ name _ ih =>
      obtain ⟨used, rfl, hused⟩ := ih hskip
      obtain ⟨value, members, others, rfl, hvalue, hmembers, hothers⟩ := hused.exists_two
      exact ⟨_, by simp, .cons (.object name hvalue hmembers) hothers⟩
  | case11 _ _ ih =>
      obtain ⟨used, rfl, hused⟩ := ih hskip
      obtain ⟨item, items, others, rfl, hitem, hitems, hothers⟩ := hused.exists_two
      exact ⟨_, by simp, .cons (.nextItem hitem hitems) hothers⟩
  | case13 _ name _ ih =>
      obtain ⟨used, rfl, hused⟩ := ih hskip
      obtain ⟨value, members, others, rfl, hvalue, hmembers, hothers⟩ := hused.exists_two
      exact ⟨_, by simp, .cons (.nextMember name hvalue hmembers) hothers⟩

theorem exists_of_skip {tokens left : List Token} (hskip : skip tokens = some left) :
    ∃ value, IsValue value ∧ tokens = value ++ left := by
  obtain ⟨used, rfl, hused⟩ := exists_of_skipFrom hskip
  cases hused with
  | cons hvalue hrest =>
      cases hrest
      exact ⟨_, hvalue, by simp⟩

end ForkSchedule.Json
