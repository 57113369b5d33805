import Mathlib.Control.Monad.Basic
import ForkSchedule.Proofs.ServiceEvents
import ForkSchedule.Schedule.File

/-!
# Loaded schedules are safe to activate

A file is loaded exactly if it holds the text of a schedule that is in order, in the format that its
name asks for. Nothing else can stand in the way of a setup as long as nothing fails: over every
chain that a store can hold it goes through, or stops at a conflict if rewinding is off.
-/

namespace ForkSchedule

namespace File

variable {name extension stem : List Char} {path : String}

theorem takeWhile_of_not_mem_dot (front back : List Char) (hfront : '.' ∉ front) :
    (front ++ '.' :: back).takeWhile (· ≠ '.') = front := by
  have hplain : ∀ character ∈ front, decide (character ≠ '.') = true := by
    intro character hmem
    apply decide_eq_true
    rintro rfl
    exact hfront hmem
  rw [List.takeWhile_append_of_pos hplain, List.takeWhile_cons_of_neg (by simp), List.append_nil]

theorem extensionOfName?_append (hstem : stem ≠ []) (hextension : '.' ∉ extension) :
    extensionOfName? (stem ++ '.' :: extension) = some extension := by
  have hdot : '.' ∈ (stem ++ '.' :: extension).tail := by
    rw [List.tail_append_of_ne_nil hstem]
    simp
  have hback : '.' ∉ extension.reverse := mt List.mem_reverse.mp hextension
  rw [extensionOfName?, if_pos hdot, List.reverse_append, List.reverse_cons, List.append_assoc,
    List.singleton_append, takeWhile_of_not_mem_dot _ _ hback, List.reverse_reverse]

/-- The extension of a name is what stands behind its last dot, unless nothing stands before it. -/
theorem extensionOfName?_eq_some_iff :
    extensionOfName? name = some extension ↔
      '.' ∉ extension ∧ ∃ stem, stem ≠ [] ∧ name = stem ++ '.' :: extension := by
  constructor
  · intro hsome
    have hdot : '.' ∈ name.tail := (Option.ite_none_right_eq_some.mp hsome).1
    -- Backwards, the last dot is the first.
    obtain ⟨back, front, hname, hback⟩ :=
      List.eq_append_cons_of_mem (List.mem_reverse.mpr (List.mem_of_mem_tail hdot))
    obtain rfl : name = front.reverse ++ '.' :: back.reverse := by
      rw [← List.reverse_reverse name, hname]
      simp
    have hplain : '.' ∉ back.reverse := mt List.mem_reverse.mp hback
    have hstem : front.reverse ≠ [] := by
      intro hnil
      rw [hnil] at hdot
      exact hplain hdot
    rw [extensionOfName?_append hstem hplain] at hsome
    cases hsome
    exact ⟨hplain, _, hstem, rfl⟩
  · rintro ⟨hextension, stem, hstem, rfl⟩
    exact extensionOfName?_append hstem hextension

/-- A path leads to a file whose name is something followed by `.toml`. -/
def NamedToml (path : String) : Prop :=
  ∃ stem, stem ≠ [] ∧ name? path.toList = some (stem ++ ".toml".toList)

theorem isToml_iff : isToml path = true ↔ NamedToml path := by
  rw [isToml, decide_eq_true_eq, extension?, Option.bind_eq_some_iff]
  simp only [extensionOfName?_eq_some_iff]
  constructor
  · rintro ⟨name, hname, -, stem, hstem, rfl⟩
    exact ⟨stem, hstem, hname⟩
  · rintro ⟨stem, hstem, hname⟩
    exact ⟨_, hname, by decide, stem, hstem, rfl⟩

/-- The bytes of a text are those that are read back as it. -/
theorem fromUTF8?_eq_some_iff {bytes : ByteArray} {text : String} :
    String.fromUTF8? bytes = some text ↔ bytes = text.toUTF8 := by
  unfold String.fromUTF8?
  constructor
  · intro hsome
    obtain ⟨hvalid, hsame⟩ := Option.dite_none_right_eq_some.mp hsome
    cases hsame
    rfl
  · rintro rfl
    exact dif_pos text.isValidUTF8

theorem text_eq_ok_iff {file : File} {text : String} :
    file.text = .ok text ↔ file = .holding text.toUTF8 := by
  cases file with
  | missing => simp [File.text]
  | directory => simp [File.text]
  | holding bytes =>
      rw [holding.injEq, ← fromUTF8?_eq_some_iff]
      cases hfound : String.fromUTF8? bytes with
      | none => simp [File.text, hfound]
      | some found => simp [File.text, hfound]

end File

namespace Schedule

variable {path : String} {file : File} {schedule : Schedule}

theorem ofText_eq_ok_iff {text : String} :
    ofText path text = .ok schedule ↔
      (File.NamedToml path → ofToml text = .ok schedule) ∧
        (¬File.NamedToml path → ofJson text = .ok schedule) := by
  rw [ofText]
  by_cases htoml : File.NamedToml path
  · rw [if_pos (File.isToml_iff.mpr htoml)]
    simp [htoml]
  · rw [if_neg (mt File.isToml_iff.mp htoml)]
    simp [htoml]

theorem load_eq_ok_iff :
    load path file = .ok schedule ↔
      ∃ text, file = .holding text.toUTF8 ∧ ofText path text = .ok schedule ∧
        schedule.checkOrder = .ok () := by
  simp only [← File.text_eq_ok_iff]
  unfold load
  constructor
  · intro hload
    split at hload
    next => contradiction
    next text htext =>
      split at hload
      next => contradiction
      next found hfound =>
        split at hload
        next => contradiction
        next horder =>
          cases hload
          exact ⟨text, htext, hfound, horder⟩
  · rintro ⟨text, htext, hfound, horder⟩
    simp only [htext, hfound, horder]

end Schedule

namespace Service

variable {service after : Service} {new : Schedule} {result : Except Error Outcome}

/-- While nothing fails, only a conflict can stop a schedule in order, and only if rewinding is
off. -/
theorem adopted_or_incompatible (hreach : service.chain.Reachable) (hcalm : service.outage = [])
    (horder : new.checkOrder = .ok ()) (hrun : service.run (setup new) = (result, after)) :
    (∃ outcome, result = .ok outcome) ∨
      service.settings.autoRewind = false ∧
        ∃ conflict, result = .error (.incompatible conflict) := by
  cases setupStep_of_run hrun with
  | refused hrefused => simp [horder] at hrefused
  | failed call calls _ hout => simp [hcalm] at hout
  | headless calls _ hnone =>
      -- Every chain that a store can hold has a head.
      obtain ⟨head, hhead⟩ := hreach.ordered.exists_head
      simp [hhead] at hnone
  | incompatible calls _ hold hne hhead hdeepest hauto => exact .inr ⟨hauto, _, rfl⟩
  | interrupted calls _ hold hne hhead hdeepest hauto hout => simp [hcalm] at hout
  | _ => exact .inl ⟨_, rfl⟩

/-- A schedule that is stored and in force already is set up without any effect. -/
theorem run_setup_inForce (hreach : service.chain.Reachable) (hcalm : service.outage = [])
    (horder : service.active.checkOrder = .ok ()) (hforce : service.InForce) :
    ∃ calls, service.run (setup service.active) = (.ok .unchanged, { service with calls }) := by
  obtain ⟨head, hhead⟩ := hreach.ordered.exists_head
  obtain ⟨calls, hrun⟩ := run_setup_over_stored service hcalm horder hforce hhead
  rw [if_pos rfl] at hrun
  exact ⟨calls, hrun⟩

theorem run_setup_again {outcome : Outcome} (hreach : service.chain.Reachable)
    (hcalm : service.outage = []) (horder : new.checkOrder = .ok ())
    (hrun : service.run (setup new) = (.ok outcome, after)) :
    ∃ calls, after.run (setup new) = (.ok .unchanged, { after with calls }) := by
  obtain ⟨-, houtage, hchain⟩ := setup_frame hreach hrun
  obtain ⟨hstored, hactive⟩ := inForce_of_setup hrun
  subst hactive
  exact run_setup_inForce hchain (houtage.trans hcalm) horder hstored

/-- A file is loaded exactly if it holds the bytes of a text that reads, as TOML if the name of the
file says so and as JSON otherwise, as a schedule in order. Over any chain that a store can hold and
while nothing fails, a loaded schedule is then stored and put in force; without rewinding only a
conflict can prevent that. Once it is set up, setting it up again changes nothing. -/
theorem loaded_schedule_safe (path : String) (file : File) (schedule : Schedule) :
    (Schedule.load path file = .ok schedule ↔
      ∃ text, file = .holding text.toUTF8 ∧
        ((File.NamedToml path → Schedule.ofToml text = .ok schedule) ∧
          (¬File.NamedToml path → Schedule.ofJson text = .ok schedule)) ∧
        schedule.checkOrder = .ok ()) ∧
    (Schedule.load path file = .ok schedule →
      ∀ service : Service, service.chain.Reachable → service.outage = [] →
        (service.settings.autoRewind = true →
          ∃ outcome after, service.run (setup schedule) = (.ok outcome, after) ∧
            after.chain.stored = some schedule ∧ after.active = schedule) ∧
        (service.settings.autoRewind = false →
          ∀ fault after, service.run (setup schedule) = (.error fault, after) →
            ∃ conflict, fault = .incompatible conflict) ∧
        ∀ outcome after, service.run (setup schedule) = (.ok outcome, after) →
          ∃ calls, after.run (setup schedule) = (.ok .unchanged, { after with calls })) := by
  constructor
  · simp only [← Schedule.ofText_eq_ok_iff]
    exact Schedule.load_eq_ok_iff
  · intro hload service hreach hcalm
    obtain ⟨-, -, -, horder⟩ := Schedule.load_eq_ok_iff.mp hload
    refine ⟨?_, ?_, fun _ _ => run_setup_again hreach hcalm horder⟩
    · intro hauto
      rcases hrun : service.run (setup schedule) with ⟨result, after⟩
      rcases adopted_or_incompatible hreach hcalm horder hrun with ⟨outcome, rfl⟩ | ⟨hrefuses, -⟩
      · exact ⟨outcome, after, rfl, inForce_of_setup hrun⟩
      · rw [hauto] at hrefuses
        contradiction
    · intro _ fault after hrun
      rcases adopted_or_incompatible hreach hcalm horder hrun with ⟨_, hok⟩ | ⟨-, conflict, herror⟩
      · contradiction
      · exact ⟨conflict, Except.error.inj herror⟩

/-- An upgrade that a file moves to an earlier timestamp cuts the chain back, once and not again.
Without rewinding it is refused. -/
theorem loaded_upgrade_cuts_chain_once :
    ∃ (schedule : Schedule) (chain : Chain) (after : Service),
      chain = (Chain.genesis (some { chainId := some 14, apricotPhase1 := some 170 }) 100).extend
        10 10 ∧
      Schedule.load "net/chain.toml"
        (.holding "chainId = 14\napricotPhase1BlockTimestamp = 150\n".toUTF8) = .ok schedule ∧
      (start {} chain).run (setup schedule) =
        (.ok (.rewound (.between "Apricot Phase 1 fork block timestamp" .timestamp (some 170)
          (some 150)) 4), after) ∧
      after.chain.stored = some schedule ∧ after.active = schedule ∧
      (∃ calls, after.run (setup schedule) = (.ok .unchanged, { after with calls })) ∧
      ∃ conflict, ((start { autoRewind := false } chain).run (setup schedule)).1 =
        .error (.incompatible conflict) := by
  have hload : Schedule.load "net/chain.toml"
      (.holding "chainId = 14\napricotPhase1BlockTimestamp = 150\n".toUTF8) =
        .ok { chainId := some 14, apricotPhase1 := some 150 } := by decide +kernel
  obtain ⟨chain, hchain⟩ : ∃ chain, chain = (Chain.genesis (some
      { chainId := some 14, apricotPhase1 := some 170 }) 100).extend 10 10 := ⟨_, rfl⟩
  have hreach : chain.Reachable := by
    rw [hchain]
    exact .extend 10 10 (.genesis _ 100)
  have hcut : ((start {} chain).run (setup { chainId := some 14, apricotPhase1 := some 150 })).1 =
      .ok (.rewound (.between "Apricot Phase 1 fork block timestamp" .timestamp (some 170)
        (some 150)) 4) := by
    rw [hchain]
    decide +kernel
  have hfails : ((start { autoRewind := false } chain).run
      (setup { chainId := some 14, apricotPhase1 := some 150 })).1.toOption = none := by
    rw [hchain]
    decide +kernel
  obtain ⟨hadopts, -, hagain⟩ := (loaded_schedule_safe _ _ _).2 hload (start {} chain) hreach rfl
  obtain ⟨outcome, after, hrun, hstored, hactive⟩ := hadopts rfl
  obtain ⟨-, hrefused, -⟩ := (loaded_schedule_safe _ _ _).2 hload
    (start { autoRewind := false } chain) hreach rfl
  rw [hrun] at hcut
  cases hcut
  refine ⟨_, chain, after, hchain, hload, hrun, hstored, hactive, hagain _ after hrun, ?_⟩
  cases hresult : ((start { autoRewind := false } chain).run
      (setup { chainId := some 14, apricotPhase1 := some 150 })).1 with
  | ok outcome =>
      rw [hresult] at hfails
      contradiction
  | error fault =>
      obtain ⟨conflict, rfl⟩ := hrefused rfl fault _ (Prod.ext hresult rfl)
      exact ⟨conflict, rfl⟩

end Service

end ForkSchedule
