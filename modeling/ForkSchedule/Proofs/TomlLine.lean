import ForkSchedule.Proofs.TomlValue
import Mathlib.Data.List.Forall2
import Mathlib.Data.List.Nodup

/-!
# TOML documents line by line

A plain document gives one value on each line, under a bare key. It is read as the list of its
entries as long as no key comes twice.
-/

namespace ForkSchedule.Toml

/-- White space within a line. -/
def IsBlanks (cs : List Char) : Prop := ∀ c ∈ cs, isBlank c = true

/-- A key without quotation marks. -/
def IsBareKey (cs : List Char) : Prop := cs ≠ [] ∧ ∀ c ∈ cs, isBare c = true

/-- The ways to end a line. -/
def IsLineEnd (cs : List Char) : Prop := cs = ['\n'] ∨ cs = ['\r', '\n']

/-- The ways to write a line without its end: a name, an equals sign and the text of a value, with
blanks around each of them. -/
inductive IsLine (name : String) (text : List Char) : List Char → Prop
  | intro {before behind between after : List Char} (hbefore : IsBlanks before)
      (hbehind : IsBlanks behind) (hbetween : IsBlanks between) (hafter : IsBlanks after) :
      IsLine name text
        (before ++ (name.toList ++ (behind ++ '=' :: (between ++ (text ++ after)))))

/-- The ways to write a document with a line for each name. The last line needs no end. -/
inductive IsLines : List (String × List Char) → List Char → Prop
  | nil : IsLines [] []
  | last {name : String} {text cs : List Char} (hline : IsLine name text cs) :
      IsLines [(name, text)] cs
  | cons {name : String} {text cs ending rest : List Char} {others : List (String × List Char)}
      (hline : IsLine name text cs) (hending : IsLineEnd ending) (hothers : IsLines others rest) :
      IsLines ((name, text) :: others) (cs ++ (ending ++ rest))

/-- The document with one blank on either side of each equals sign and a line feed at the end of
each line. -/
def linesText (lines : List (String × List Char)) : List Char :=
  lines.flatMap fun line => line.1.toList ++ ' ' :: '=' :: ' ' :: (line.2 ++ ['\n'])

theorem isLines_of_eq {lines : List (String × List Char)} {cs : List Char}
    (hcs : cs = linesText lines) : IsLines lines cs := by
  subst hcs
  induction lines with
  | nil => exact .nil
  | cons line lines ih =>
      obtain ⟨name, text⟩ := line
      have hblank : IsBlanks [' '] := by simp [IsBlanks, isBlank]
      have hnone : IsBlanks [] := List.forall_mem_nil _
      have hline : IsLine name text _ := .intro hnone hblank hblank hnone
      simpa [linesText] using IsLines.cons hline (.inl rfl) ih

/-! ## Reading a line -/

theorem skipBlank_append {gap : List Char} (hgap : IsBlanks gap) (rest : List Char) :
    skipBlank (gap ++ rest) = skipBlank rest :=
  List.dropWhile_append_of_pos hgap

theorem skipBlank_cons {c : Char} (hblank : isBlank c = false) (rest : List Char) :
    skipBlank (c :: rest) = c :: rest := by
  rw [skipBlank, List.dropWhile_cons, hblank]
  rfl

/-- A line ends here: what is behind its end, or that the document is at its end. -/
inductive AtLineEnd : List Char → List Char → Prop
  | document : AtLineEnd [] []
  | line {ending : List Char} (hending : IsLineEnd ending) (rest : List Char) :
      AtLineEnd (ending ++ rest) rest

theorem lineEnd_append {after tail left : List Char} (hafter : IsBlanks after)
    (hend : AtLineEnd tail left) : lineEnd (after ++ tail) = some left := by
  rw [lineEnd, skipBlank_append hafter]
  cases hend with
  | document => rfl
  | line hending rest => rcases hending with rfl | rfl <;> rfl

theorem endsValue_append {after tail left : List Char} (hafter : IsBlanks after)
    (hend : AtLineEnd tail left) : EndsValue (after ++ tail) := by
  cases after with
  | nil =>
      cases hend with
      | document => simp [EndsValue]
      | line hending rest => rcases hending with rfl | rfl <;> simp [EndsValue, endsScalar]
  | cons c after => simp [EndsValue, endsScalar, hafter c List.mem_cons_self]

theorem isBare_ne {c d : Char} (hbare : isBare c = true) (hother : isBare d = false) : c ≠ d := by
  rintro rfl
  rw [hbare] at hother
  contradiction

theorem isBlank_of_isBare {c : Char} (hbare : isBare c = true) : isBlank c = false := by
  have hspace : c ≠ ' ' := isBare_ne hbare rfl
  have htab : c ≠ '\t' := isBare_ne hbare rfl
  simp [isBlank, hspace, htab]

theorem keyPart_append {key rest : List Char} (hkey : IsBareKey key)
    (hstops : ∀ c ∈ rest.head?, isBare c = false) : keyPart (key ++ rest) = some (key, rest) := by
  have htake := Text.takeWhile_append hkey.2 hstops
  have hdrop := Text.dropWhile_append hkey.2 hstops
  obtain ⟨hne, hbare⟩ := hkey
  obtain ⟨c, key, rfl⟩ := List.exists_cons_of_ne_nil hne
  have hc := hbare c List.mem_cons_self
  rw [List.cons_append] at htake hdrop ⊢
  unfold keyPart
  split
  next heq => exact absurd (List.cons.inj heq).1 (isBare_ne hc rfl)
  next heq => exact absurd (List.cons.inj heq).1 (isBare_ne hc rfl)
  · rw [htake, hdrop, if_neg hne]

theorem skipBlank_key {key : List Char} (hkey : IsBareKey key) (rest : List Char) :
    skipBlank (key ++ rest) = key ++ rest := by
  obtain ⟨hne, hbare⟩ := hkey
  obtain ⟨c, key, rfl⟩ := List.exists_cons_of_ne_nil hne
  exact skipBlank_cons (isBlank_of_isBare (hbare c List.mem_cons_self)) _

theorem read_key {key behind : List Char} (hkey : IsBareKey key) (hbehind : IsBlanks behind)
    (rest : List Char) :
    Toml.key.read (key ++ (behind ++ '=' :: rest)) = some (⟨[], key⟩, '=' :: rest) := by
  have hstops : ∀ c ∈ (behind ++ '=' :: rest).head?, isBare c = false := by
    cases behind with
    | nil => simp [isBare]
    | cons c behind =>
        have hblank := hbehind c List.mem_cons_self
        simp only [isBlank, Bool.or_eq_true, decide_eq_true_eq] at hblank
        rcases hblank with rfl | rfl <;> simp [isBare]
  have hskip : skipBlank (behind ++ '=' :: rest) = '=' :: rest := by
    rw [skipBlank_append hbehind]
    rfl
  have hparts : keyParts (key ++ (behind ++ '=' :: rest)) = some (⟨[], key⟩, '=' :: rest) := by
    rw [keyParts]
    split
    next hnone =>
      rw [skipBlank_key hkey, keyPart_append hkey hstops] at hnone
      contradiction
    next part left hpart =>
      rw [skipBlank_key hkey, keyPart_append hkey hstops] at hpart
      cases hpart
      split
      next hdot =>
        rw [hskip] at hdot
        exact absurd (List.cons.inj hdot).1 (by decide)
      · rw [hskip]
  exact (congrArg (Option.filter _) hparts).trans rfl

theorem lineEnd_key {key : List Char} (hkey : IsBareKey key) (rest : List Char) :
    lineEnd (key ++ rest) = none := by
  have hskip := skipBlank_key hkey rest
  obtain ⟨hne, hbare⟩ := hkey
  obtain ⟨c, key, rfl⟩ := List.exists_cons_of_ne_nil hne
  have hc := hbare c List.mem_cons_self
  have hcomment : afterComment (c :: key ++ rest) = c :: key ++ rest := by
    unfold afterComment
    split
    next heq => exact absurd (List.cons.inj heq).1 (isBare_ne hc rfl)
    · rfl
  rw [lineEnd, hskip, hcomment]
  split
  · contradiction
  next heq => exact absurd (List.cons.inj heq).1 (isBare_ne hc rfl)
  next heq => exact absurd (List.cons.inj heq).1 (isBare_ne hc rfl)
  · rfl

theorem line_key {key : List Char} (hkey : IsBareKey key) {cs rest : List Char}
    (hstart : skipBlank cs = key ++ rest) :
    line cs =
      match (pair (value depthLimit)).read (key ++ rest) with
      | some (pair, rest) => (lineEnd rest).map (some (.pair pair), ·)
      | none => none := by
  have hend := lineEnd_key hkey rest
  obtain ⟨hne, hbare⟩ := hkey
  obtain ⟨c, key, rfl⟩ := List.exists_cons_of_ne_nil hne
  have hc := hbare c List.mem_cons_self
  unfold line
  rw [hstart]
  split
  next heq => exact absurd (List.cons.inj heq).1 (isBare_ne hc rfl)
  next heq => exact absurd (List.cons.inj heq).1 (isBare_ne hc rfl)
  · split
    next hsome =>
      rw [hend] at hsome
      contradiction
    · rfl

/-- A line is read as an entry, unless its value is none. -/
theorem line_append {name : String} {text cs tail left : List Char} {outcome : Option Value}
    (hline : IsLine name text cs) (hname : IsBareKey name.toList) (hdenotes : Denotes text outcome)
    (hend : AtLineEnd tail left) :
    line (cs ++ tail) =
      outcome.map fun value => (some (.pair ⟨⟨[], name.toList⟩, value⟩), left) := by
  obtain @⟨before, behind, between, after, hbefore, hbehind, hbetween, hafter⟩ := hline
  obtain ⟨c, rest, hcons, hblank⟩ := hdenotes.exists_cons
  have hstart : skipBlank (between ++ (text ++ (after ++ tail))) = text ++ (after ++ tail) := by
    rw [skipBlank_append hbetween, hcons]
    exact skipBlank_cons hblank _
  have hread := hdenotes.read_append _ (endsValue_append hafter hend)
  simp only [List.append_assoc, List.cons_append]
  rw [line_key hname (by rw [skipBlank_append hbefore, skipBlank_key hname])]
  simp only [pair, read_key hname hbehind, hstart, hread]
  cases outcome with
  | none => rfl
  | some value =>
      simp only [Option.map_some, lineEnd_append hafter hend]

/-! ## Reading a document -/

/-- A line gives an entry: its key is bare and its text is read as the value of the entry. -/
def Gives (line : String × List Char) (entry : List Char × Value) : Prop :=
  IsBareKey line.1.toList ∧ entry.1 = line.1.toList ∧ Denotes line.2 (some entry.2)

/-- The statement of an entry in the table of the document itself. -/
def Statement.entry (entry : List Char × Value) : Statement := .pair ⟨⟨[], entry.1⟩, entry.2⟩

theorem statements_nil : statements [] = some [] := by
  rw [statements, dif_pos rfl]

theorem statements_of_line {cs rest : List Char} {found : Option Statement} (hne : cs ≠ [])
    (hline : line cs = some (found, rest)) :
    statements cs = (statements rest).map (found.toList ++ ·) := by
  rw [statements, dif_neg hne]
  split
  next hnone =>
    rw [hline] at hnone
    contradiction
  next hsome =>
    rw [hline] at hsome
    cases hsome
    rfl

theorem statements_eq_none {cs : List Char} (hne : cs ≠ []) (hline : line cs = none) :
    statements cs = none := by
  rw [statements, dif_neg hne]
  split
  · rfl
  next hsome =>
    rw [hline] at hsome
    contradiction

theorem IsLine.ne_nil {name : String} {text cs : List Char} (hline : IsLine name text cs) :
    cs ≠ [] := by
  cases hline
  simp

theorem statements_append {line : String × List Char} {entry : List Char × Value}
    {cs tail left : List Char} (hgives : Gives line entry) (hline : IsLine line.1 line.2 cs)
    (hend : AtLineEnd tail left) :
    statements (cs ++ tail) = (statements left).map (Statement.entry entry :: ·) := by
  obtain ⟨hbare, hname, hdenotes⟩ := hgives
  have hread := line_append hline hbare hdenotes hend
  rw [statements_of_line (List.append_ne_nil_of_left_ne_nil hline.ne_nil _) hread,
    Statement.entry, hname]
  rfl

theorem IsLines.exists_line {name : String} {text cs : List Char}
    {others : List (String × List Char)} (hlines : IsLines ((name, text) :: others) cs) :
    ∃ line tail left, cs = line ++ tail ∧ IsLine name text line ∧ AtLineEnd tail left ∧
      IsLines others left := by
  cases hlines with
  | last hline => exact ⟨cs, [], [], (List.append_nil cs).symm, hline, .document, .nil⟩
  | cons hline hending hothers => exact ⟨_, _, _, rfl, hline, .line hending _, hothers⟩

/-- The statements of a plain document are its entries. -/
theorem statements_of_lines {lines : List (String × List Char)} {cs : List Char} {found : Entries}
    (hlines : IsLines lines cs) (hfound : List.Forall₂ Gives lines found) :
    statements cs = some (found.map Statement.entry) := by
  induction hfound generalizing cs with
  | nil =>
      cases hlines
      exact statements_nil
  | cons hgives _ ih =>
      obtain ⟨line, tail, left, rfl, hline, hend, hothers⟩ := hlines.exists_line
      rw [statements_append hgives hline hend, ih hothers]
      rfl

theorem Entries.add_of_notMem {key : List Char} {entries : Entries}
    (hnew : key ∉ entries.map Prod.fst) (value : Value) :
    entries.add key value = some (entries ++ [(key, value)]) := by
  have hlookup : entries.lookup key = none := by
    rw [List.lookup_eq_none_iff]
    intro entry hentry
    rw [bne_iff_ne]
    rintro rfl
    exact hnew (List.mem_map_of_mem hentry)
  rw [Entries.add, hlookup]

theorem foldlM_add {before found : Entries} (hnodup : ((before ++ found).map Prod.fst).Nodup) :
    (found.map Statement.entry).foldlM Draft.add ⟨before, []⟩ = some ⟨before ++ found, []⟩ := by
  induction found generalizing before with
  | nil => simp
  | cons entry found ih =>
      have hnew : entry.1 ∉ before.map Prod.fst := by
        rw [List.map_append, List.map_cons, List.nodup_middle, List.nodup_cons] at hnodup
        exact fun hmem => hnodup.1 (List.mem_append_left _ hmem)
      have hadd : Draft.add ⟨before, []⟩ (Statement.entry entry) = some ⟨before ++ [entry], []⟩ :=
        congrArg (Option.map _) (Entries.add_of_notMem hnew entry.2)
      have hothers : (found.map Statement.entry).foldlM Draft.add ⟨before ++ [entry], []⟩ =
          some ⟨before ++ [entry] ++ found, []⟩ :=
        ih (by rwa [List.append_cons] at hnodup)
      rw [List.map_cons, List.foldlM_cons, hadd, List.append_cons before entry found]
      exact hothers

theorem entriesOf_entries {found : Entries} (hnodup : (found.map Prod.fst).Nodup) :
    entriesOf (found.map Statement.entry) = some found := by
  rw [entriesOf, foldlM_add (by rwa [List.nil_append])]
  rfl

theorem IsLine.head?_ne_mark {name : String} {text cs : List Char} (hline : IsLine name text cs)
    (hname : IsBareKey name.toList) (rest : List Char) : (cs ++ rest).head? ≠ some '\ufeff' := by
  obtain @⟨before, behind, between, after, hbefore, -, -, -⟩ := hline
  obtain ⟨hne, hbare⟩ := hname
  obtain ⟨c, key, hcons⟩ := List.exists_cons_of_ne_nil hne
  cases before with
  | nil =>
      rw [hcons] at hbare ⊢
      rintro ⟨⟩
      have := hbare '\ufeff' List.mem_cons_self
      contradiction
  | cons c before =>
      rintro ⟨⟩
      have := hbefore '\ufeff' List.mem_cons_self
      contradiction

theorem dropByteOrderMark_of_head? {cs : List Char} (hhead : cs.head? ≠ some '\ufeff') :
    dropByteOrderMark cs = cs := by
  unfold dropByteOrderMark
  split
  · contradiction
  · rfl

theorem dropByteOrderMark_of_lines {lines : List (String × List Char)} {cs : List Char}
    (hlines : IsLines lines cs) (hbare : ∀ line ∈ lines, IsBareKey line.1.toList) :
    dropByteOrderMark cs = cs := by
  cases lines with
  | nil =>
      cases hlines
      rfl
  | cons first others =>
      obtain ⟨line, tail, left, rfl, hline, -⟩ := hlines.exists_line
      exact dropByteOrderMark_of_head? (hline.head?_ne_mark (hbare first List.mem_cons_self) tail)

theorem isBareKey_of_gives {lines : List (String × List Char)} {found : Entries}
    (hfound : List.Forall₂ Gives lines found) : ∀ line ∈ lines, IsBareKey line.1.toList := by
  induction hfound with
  | nil => simp
  | cons hgives _ ih => exact List.forall_mem_cons.mpr ⟨hgives.1, ih⟩

theorem map_fst_of_gives {lines : List (String × List Char)} {found : Entries}
    (hfound : List.Forall₂ Gives lines found) :
    found.map Prod.fst = (lines.map Prod.fst).map String.toList := by
  induction hfound with
  | nil => rfl
  | cons hgives _ ih => rw [List.map_cons, ih, hgives.2.1]; rfl

/-- A plain document is read as the list of its entries, if no name comes twice. -/
theorem entries?_of_lines {lines : List (String × List Char)} {text : String} {found : Entries}
    (hlines : IsLines lines text.toList) (hfound : List.Forall₂ Gives lines found)
    (hnodup : (lines.map Prod.fst).Nodup) : entries? text = some found := by
  have hkeys : (found.map Prod.fst).Nodup := by
    rw [map_fst_of_gives hfound]
    exact hnodup.map fun _ _ hsame => String.toList_inj.mp hsame
  rw [entries?, dropByteOrderMark_of_lines hlines (isBareKey_of_gives hfound),
    statements_of_lines hlines hfound]
  exact entriesOf_entries hkeys

/-- A document is refused as a whole for a first line without a value. -/
theorem entries?_eq_none {name : String} {content : List Char} {text : String}
    {others : List (String × List Char)} (hlines : IsLines ((name, content) :: others) text.toList)
    (hbare : IsBareKey name.toList) (hdenotes : Denotes content none) : entries? text = none := by
  obtain ⟨line, tail, left, hcs, hline, hend, -⟩ := hlines.exists_line
  have hread := line_append hline hbare hdenotes hend
  have hstart := dropByteOrderMark_of_head? (hline.head?_ne_mark hbare tail)
  rw [entries?, hcs, hstart,
    statements_eq_none (List.append_ne_nil_of_left_ne_nil hline.ne_nil tail) hread]
  rfl

end ForkSchedule.Toml
