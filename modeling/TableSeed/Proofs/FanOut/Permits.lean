import Mathlib
import TableSeed.Seeding.FanOut

/-!
# Laws of permits

Every insert that has asked for a permit stands in exactly one place, and the free permits, those
that are granted and those in flight always make up the cap. A permit is free only if nothing
waits. Each move of an insert brings it nearer to its end and keeps every other insert where it
is, or lets it go on.
-/

namespace TableSeed

namespace Stage

/-- The number of moves that an insert is away from its end, at most. -/
def distance : Stage → Nat
  | .new => 4
  | .waiting => 3
  | .granted => 2
  | .inFlight => 1
  | .ended => 0

/-- Whether an insert can go on by itself. -/
def active : Stage → Bool
  | .new | .granted | .inFlight => true
  | .waiting | .ended => false

end Stage

namespace FanOut

/-- The inserts that have asked for a permit, by where they stand. -/
def asked (f : FanOut) : List Nat := f.waiting ++ (f.granted ++ (f.inFlight ++ f.ended))

/-- What holds of a fan-out at every moment. -/
structure Sound (cap : Option Nat) (f : FanOut) : Prop where
  nodup : f.asked.Nodup
  /-- The permits that are free and those that are held make up the cap. -/
  permits : f.free.map (· + (f.granted.length + f.inFlight.length)) = cap.map (max 1)
  /-- Nothing waits while a permit is free. -/
  waits : f.waiting ≠ [] → f.free = some 0

section Stages

variable {f : FanOut} {i : Nat}

/-- An insert has asked if it stands in one of the four places. -/
theorem mem_asked :
    i ∈ f.asked ↔ i ∈ f.waiting ∨ i ∈ f.granted ∨ i ∈ f.inFlight ∨ i ∈ f.ended := by
  simp only [asked, List.mem_append]

/-- An insert is new if it has not asked. -/
theorem stage_eq_new : f.stage i = .new ↔ i ∉ f.asked := by
  rw [mem_asked, stage]
  by_cases ended : i ∈ f.ended
  · simp [ended]
  · by_cases inFlight : i ∈ f.inFlight
    · simp [ended, inFlight]
    · by_cases granted : i ∈ f.granted
      · simp [ended, inFlight, granted]
      · by_cases waiting : i ∈ f.waiting <;> simp [ended, inFlight, granted, waiting]

/-- An insert has ended if it stands among those that have. -/
theorem stage_eq_ended : f.stage i = .ended ↔ i ∈ f.ended := by
  by_cases ended : i ∈ f.ended
  · simp [stage, ended]
  · simp only [stage, List.contains_iff_mem, ended, if_false, iff_false]
    split_ifs <;> simp

/-- No insert stands in two places. -/
theorem places_disjoint (nodup : f.asked.Nodup) :
    (i ∈ f.waiting → i ∉ f.granted ∧ i ∉ f.inFlight ∧ i ∉ f.ended) ∧
      (i ∈ f.granted → i ∉ f.inFlight ∧ i ∉ f.ended) ∧ (i ∈ f.inFlight → i ∉ f.ended) := by
  obtain ⟨_, rest, waiting⟩ := List.nodup_append'.mp nodup
  obtain ⟨_, rest', granted⟩ := List.nodup_append'.mp rest
  obtain ⟨_, _, inFlight⟩ := List.nodup_append'.mp rest'
  refine ⟨fun h => ?_, fun h => ?_, fun h => inFlight h⟩
  · have apart : i ∉ f.granted ++ (f.inFlight ++ f.ended) := waiting h
    simpa only [List.mem_append, not_or] using apart
  · have apart : i ∉ f.inFlight ++ f.ended := granted h
    simpa only [List.mem_append, not_or] using apart

/-- An insert is in flight if it stands among those that are. -/
theorem stage_eq_inFlight (nodup : f.asked.Nodup) : f.stage i = .inFlight ↔ i ∈ f.inFlight := by
  by_cases inFlight : i ∈ f.inFlight
  · simp [stage, inFlight, (places_disjoint nodup).2.2 inFlight]
  · simp only [stage, List.contains_iff_mem, inFlight, if_false, iff_false]
    split_ifs <;> simp

/-- An insert has a permit and is yet to start if it stands among those that do. -/
theorem stage_eq_granted (nodup : f.asked.Nodup) : f.stage i = .granted ↔ i ∈ f.granted := by
  by_cases granted : i ∈ f.granted
  · simp [stage, granted, (places_disjoint nodup).2.1 granted]
  · simp only [stage, List.contains_iff_mem, granted, if_false, iff_false]
    split_ifs <;> simp

/-- An insert waits if it stands among those that do. -/
theorem stage_eq_waiting (nodup : f.asked.Nodup) : f.stage i = .waiting ↔ i ∈ f.waiting := by
  by_cases waiting : i ∈ f.waiting
  · simp [stage, waiting, (places_disjoint nodup).1 waiting]
  · simp only [stage, List.contains_iff_mem, waiting, if_false, iff_false]
    split_ifs <;> simp

end Stages

/-! ## Moves keep the laws -/

section Moves

variable {cap : Option Nat} {f : FanOut} {i : Nat}

/-- Nothing has been asked at first, and all permits are free. -/
theorem sound_ofCap (cap : Option Nat) : (ofCap cap).Sound cap where
  nodup := by simp [asked, ofCap]
  permits := by simp [ofCap, Option.map_map, Function.comp_def]
  waits := by simp [ofCap]

/-- Asking adds the insert to those that have asked. -/
theorem asked_ask (f : FanOut) (i : Nat) : (f.ask i).asked.Perm (i :: f.asked) := by
  have middle : (f.waiting ++ (f.granted ++ (i :: f.inFlight ++ f.ended))).Perm (i :: f.asked) := by
    rw [asked, ← List.append_assoc, ← List.append_assoc, ← List.append_assoc, List.append_assoc]
    exact List.perm_middle
  unfold ask
  split
  · exact middle
  · simp only [asked, List.append_assoc]
    exact List.perm_middle
  · exact middle

/-- Giving a permit back leaves the inserts that have asked as they are. -/
theorem asked_release (f : FanOut) : f.release.1.asked.Perm f.asked := by
  unfold release
  split
  · rename_i w rest waiting
    simp only [asked, waiting, List.append_assoc, List.cons_append, List.nil_append]
    rw [← List.append_assoc]
    refine List.perm_middle.trans ?_
    rw [List.append_assoc]
  · exact List.Perm.refl _

/-- Giving a permit back leaves alone what is in flight and what has ended. -/
theorem release_frame (f : FanOut) :
    f.release.1.inFlight = f.inFlight ∧ f.release.1.ended = f.ended := by
  unfold release
  split <;> exact ⟨rfl, rfl⟩

/-- Starting leaves the inserts that have asked as they are. -/
theorem asked_start (granted : i ∈ f.granted) : (f.start i).asked.Perm f.asked := by
  refine List.Perm.append_left _ ?_
  have moved : f.granted.Perm (i :: f.granted.erase i) := List.perm_cons_erase granted
  calc (f.granted.erase i ++ (i :: f.inFlight ++ f.ended)).Perm
        (i :: (f.granted.erase i ++ (f.inFlight ++ f.ended))) := List.perm_middle
    _ |>.Perm (f.granted ++ (f.inFlight ++ f.ended)) := moved.symm.append_right _

/-- Ending leaves the inserts that have asked as they are. -/
theorem asked_finish (inFlight : i ∈ f.inFlight) : (f.finish i).1.asked.Perm f.asked := by
  refine (asked_release _).trans (List.Perm.append_left _ (List.Perm.append_left _ ?_))
  calc (f.inFlight.erase i ++ i :: f.ended).Perm (i :: (f.inFlight.erase i ++ f.ended)) :=
        List.perm_middle
    _ |>.Perm (f.inFlight ++ f.ended) := (List.perm_cons_erase inFlight).symm.append_right _

/-- A new insert that asks keeps the laws. -/
theorem Sound.ask (sound : f.Sound cap) (new : f.stage i = .new) : (f.ask i).Sound cap where
  nodup := by
    rw [(asked_ask f i).nodup_iff, List.nodup_cons]
    exact ⟨stage_eq_new.mp new, sound.nodup⟩
  permits := by
    rw [← sound.permits]
    unfold FanOut.ask
    split
    · rename_i free
      simp [free]
    · rename_i free
      simp [free]
    · rename_i n free
      simp only [free, Option.map_some, List.length_cons, Option.some.injEq]
      omega
  waits := by
    have waits := sound.waits
    unfold FanOut.ask
    split
    · rename_i free
      simpa [free] using waits
    · rename_i free
      simp [free]
    · rename_i n free
      intro waiting
      simp [free] at waits
      exact absurd waits waiting

/-- An insert that starts with the permit that it got keeps the laws. -/
theorem Sound.start (sound : f.Sound cap) (granted : i ∈ f.granted) : (f.start i).Sound cap where
  nodup := (asked_start granted).nodup_iff.mpr sound.nodup
  permits := by
    rw [← sound.permits]
    have length := List.length_erase_of_mem granted
    have positive := List.length_pos_of_mem granted
    congr 1
    funext n
    simp only [FanOut.start, List.length_cons, length]
    omega
  waits := sound.waits

/-- Giving back a permit that is held, of which the count has one too few, restores the laws. -/
theorem sound_release (nodup : f.asked.Nodup)
    (permits : f.free.map (· + (f.granted.length + f.inFlight.length + 1)) = cap.map (max 1))
    (waits : f.waiting ≠ [] → f.free = some 0) : f.release.1.Sound cap where
  nodup := (asked_release f).nodup_iff.mpr nodup
  permits := by
    rw [← permits]
    unfold release
    split
    · congr 1
      funext n
      simp only [List.length_append, List.length_cons, List.length_nil]
      omega
    · simp only [Option.map_map]
      congr 1
      funext n
      simp only [Function.comp_apply]
      omega
  waits := by
    unfold release
    split
    · rename_i w rest waiting
      intro _
      exact waits (by simp [waiting])
    · rename_i waiting
      simp [waiting]

/-- An insert that leaves its flight has one permit to give back. -/
theorem Sound.permits_erase_inFlight (sound : f.Sound cap) (inFlight : i ∈ f.inFlight) :
    f.free.map (· + (f.granted.length + (f.inFlight.erase i).length + 1)) = cap.map (max 1) := by
  rw [← sound.permits]
  have length := List.length_erase_of_mem inFlight
  have positive := List.length_pos_of_mem inFlight
  congr 1
  funext n
  rw [length]
  omega

/-- An insert that ends keeps the laws. -/
theorem Sound.finish (sound : f.Sound cap) (inFlight : i ∈ f.inFlight) :
    (f.finish i).1.Sound cap := by
  refine sound_release ?_ (sound.permits_erase_inFlight inFlight) sound.waits
  exact (asked_release _).nodup_iff.mp ((asked_finish inFlight).nodup_iff.mpr sound.nodup)

/-- An insert that is given up keeps the laws. -/
theorem Sound.giveUp (sound : f.Sound cap) : (f.giveUp i).Sound cap := by
  unfold FanOut.giveUp
  split
  · refine ⟨?_, sound.permits, fun waiting => sound.waits ?_⟩
    · exact sound.nodup.sublist ((List.erase_sublist).append_right _)
    · rintro empty
      simp [empty] at waiting
  · rename_i granted
    have mem := (stage_eq_granted sound.nodup).mp granted
    refine sound_release ?_ ?_ sound.waits
    · exact sound.nodup.sublist (((List.erase_sublist).append_right _).append_left _)
    · rw [← sound.permits]
      have length := List.length_erase_of_mem mem
      have positive := List.length_pos_of_mem mem
      congr 1
      funext n
      simp only [length]
      omega
  · rename_i inFlight
    have mem := (stage_eq_inFlight sound.nodup).mp inFlight
    refine sound_release ?_ (sound.permits_erase_inFlight mem) sound.waits
    exact sound.nodup.sublist
      ((((List.erase_sublist).append_right _).append_left _).append_left _)
  · exact sound
  · exact sound

/-- Only inserts that have asked are left when one is given up. -/
theorem mem_asked_of_giveUp {j : Nat} (asked : j ∈ (f.giveUp i).asked) : j ∈ f.asked := by
  unfold FanOut.giveUp at asked
  split at asked
  · exact ((List.erase_sublist).append_right _).mem asked
  · rw [(asked_release _).mem_iff] at asked
    exact (((List.erase_sublist).append_right _).append_left _).mem asked
  · rw [(asked_release _).mem_iff] at asked
    exact ((((List.erase_sublist).append_right _).append_left _).append_left _).mem asked
  · exact asked
  · exact asked

/-- Giving an insert up starts none and ends none. -/
theorem giveUp_frame (f : FanOut) (i : Nat) :
    (f.giveUp i).inFlight.Sublist f.inFlight ∧ (f.giveUp i).ended = f.ended := by
  unfold FanOut.giveUp
  split
  · exact ⟨List.Sublist.refl _, rfl⟩
  · rw [(release_frame _).1, (release_frame _).2]
    exact ⟨List.Sublist.refl _, rfl⟩
  · rw [(release_frame _).1, (release_frame _).2]
    exact ⟨List.erase_sublist, rfl⟩
  · exact ⟨List.Sublist.refl _, rfl⟩
  · exact ⟨List.Sublist.refl _, rfl⟩

/-- No more inserts are in flight than there are permits. -/
theorem Sound.inFlight_le {n : Nat} (sound : f.Sound (some n)) : f.inFlight.length ≤ max n 1 := by
  have permits := sound.permits
  cases free : f.free with
  | none => simp [free] at permits
  | some k =>
    simp only [free, Option.map_some, Option.some.injEq] at permits
    omega

/-- If an insert waits, another holds its permit. -/
theorem Sound.holder_of_waiting (sound : f.Sound cap) (waiting : f.waiting ≠ []) :
    f.granted ≠ [] ∨ f.inFlight ≠ [] := by
  have permits := sound.permits
  rw [sound.waits waiting] at permits
  cases cap with
  | none => simp at permits
  | some n =>
    simp only [Option.map_some, Option.some.injEq] at permits
    by_contra none
    push Not at none
    simp only [none.1, none.2, List.length_nil] at permits
    omega

end Moves

/-! ## Moves bring inserts nearer to their ends -/

/-- An insert has moved on. Of the others only the one that was woken has changed: it waited, and
has a permit now. -/
structure MovesOn (f g : FanOut) (i : Nat) (woken : Option Nat) : Prop where
  nearer : (g.stage i).distance < (f.stage i).distance
  others : ∀ j, j ≠ i → woken ≠ some j → g.stage j = f.stage j
  woken : ∀ w, woken = some w → w ≠ i ∧ f.stage w = .waiting ∧ g.stage w = .granted

/-- The moves that the first `n` inserts are away from their ends, at most. -/
def work (n : Nat) (f : FanOut) : Nat := ∑ i ∈ Finset.range n, (f.stage i).distance

section Progress

variable {cap : Option Nat} {f g h : FanOut} {i j n : Nat} {woken : Option Nat}

/-- Where an insert stands decides its stage. -/
theorem stage_congr (waiting : j ∈ g.waiting ↔ j ∈ f.waiting)
    (granted : j ∈ g.granted ↔ j ∈ f.granted) (inFlight : j ∈ g.inFlight ↔ j ∈ f.inFlight)
    (ended : j ∈ g.ended ↔ j ∈ f.ended) : g.stage j = f.stage j := by
  simp only [stage, List.contains_iff_mem, waiting, granted, inFlight, ended]

/-- A permit that is given back changes the stage of the one that gets it only. -/
theorem stage_release (nodup : f.asked.Nodup) :
    (∀ j, f.release.2 ≠ some j → f.release.1.stage j = f.stage j) ∧
      ∀ w, f.release.2 = some w → f.stage w = .waiting ∧ f.release.1.stage w = .granted := by
  have nodup' := (asked_release f).nodup_iff.mpr nodup
  unfold release at nodup' ⊢
  split
  · rename_i w rest waiting
    simp only [waiting] at nodup'
    refine ⟨fun j other => ?_, fun v got => ?_⟩
    · have ne : j ≠ w := fun same => other (by rw [same])
      refine stage_congr ?_ ?_ Iff.rfl Iff.rfl
      · simp [waiting, ne]
      · simp [ne]
    · obtain rfl : w = v := Option.some.inj got
      refine ⟨(stage_eq_waiting nodup).mpr (by simp [waiting]), ?_⟩
      exact (stage_eq_granted nodup').mpr (by simp)
  · exact ⟨fun _ _ => rfl, by simp⟩

/-- Asking moves a new insert on. -/
theorem movesOn_ask (new : f.stage i = .new) : MovesOn f (f.ask i) i none where
  nearer := by
    have asked : (f.ask i).stage i ≠ .new := fun still =>
      stage_eq_new.mp still ((asked_ask f i).mem_iff.mpr List.mem_cons_self)
    rw [new]
    cases stage : (f.ask i).stage i <;> simp_all [Stage.distance]
  others j ne _ := by
    unfold FanOut.ask
    split <;> exact stage_congr (by simp [ne]) Iff.rfl (by simp [ne]) Iff.rfl
  woken := by simp

/-- Starting moves an insert on that has got its permit. -/
theorem movesOn_start (sound : f.Sound cap) (granted : i ∈ f.granted) :
    MovesOn f (f.start i) i none where
  nearer := by
    rw [(stage_eq_granted sound.nodup).mpr granted,
      (stage_eq_inFlight (sound.start granted).nodup).mpr List.mem_cons_self]
    decide
  others j ne _ := by
    refine stage_congr Iff.rfl ?_ ?_ Iff.rfl
    · exact List.mem_erase_of_ne ne
    · simp [FanOut.start, ne]
  woken := by simp

/-- Ending moves an insert on, and wakes the one that gets its permit. -/
theorem movesOn_finish (sound : f.Sound cap) (inFlight : i ∈ f.inFlight) :
    MovesOn f (f.finish i).1 i (f.finish i).2 := by
  let left : FanOut := { f with inFlight := f.inFlight.erase i, ended := i :: f.ended }
  have nodup : left.asked.Nodup := (asked_release left).nodup_iff.mp (sound.finish inFlight).nodup
  have kept := stage_release nodup
  have stays (j : Nat) (ne : j ≠ i) : left.stage j = f.stage j :=
    stage_congr Iff.rfl Iff.rfl (List.mem_erase_of_ne ne) (by simp [left, ne])
  have atEnd : left.stage i = .ended := stage_eq_ended.mpr List.mem_cons_self
  have apart (w : Nat) (got : (f.finish i).2 = some w) : w ≠ i := by
    rintro rfl
    have waiting := (kept.2 w got).1
    rw [atEnd] at waiting
    cases waiting
  refine ⟨?_, fun j ne other => (kept.1 j other).trans (stays j ne), fun w got => ?_⟩
  · have self : (f.finish i).1.stage i = .ended :=
      (kept.1 i fun got => apart i got rfl).trans atEnd
    rw [self, (stage_eq_inFlight sound.nodup).mpr inFlight]
    decide
  · have change := kept.2 w got
    rw [stays w (apart w got)] at change
    exact ⟨apart w got, change⟩

/-- An insert may move on several times in a row, the last time waking another. -/
theorem MovesOn.trans (first : MovesOn f g i none) (second : MovesOn g h i woken) :
    MovesOn f h i woken where
  nearer := second.nearer.trans first.nearer
  others j ne other := (second.others j ne other).trans (first.others j ne (by simp))
  woken w got := by
    obtain ⟨ne, waiting, granted⟩ := second.woken w got
    rw [first.others w ne (by simp)] at waiting
    exact ⟨ne, waiting, granted⟩

/-- An insert that moves on leaves less work. -/
theorem MovesOn.work_lt (moves : MovesOn f g i woken) (bound : i < n) : g.work n < f.work n := by
  refine Finset.sum_lt_sum (fun j _ => ?_) ⟨i, Finset.mem_range.mpr bound, moves.nearer⟩
  by_cases same : j = i
  · subst same
    exact moves.nearer.le
  · by_cases got : woken = some j
    · rw [(moves.woken j got).2.1, (moves.woken j got).2.2]
      decide
    · rw [moves.others j same got]

/-- An insert that moves on and wakes another leaves less work by two. -/
theorem MovesOn.work_add_woken_lt (moves : MovesOn f g i woken) (bound : i < n)
    (within : ∀ w, woken = some w → w < n) : g.work n + woken.toList.length < f.work n := by
  cases woken with
  | none => simpa using moves.work_lt bound
  | some w =>
    obtain ⟨ne, waiting, granted⟩ := moves.woken w rfl
    have split (f : FanOut) : f.work n = (f.stage w).distance +
        ∑ j ∈ (Finset.range n).erase w, (f.stage j).distance :=
      (Finset.add_sum_erase _ _ (Finset.mem_range.mpr (within w rfl))).symm
    have rest : ∑ j ∈ (Finset.range n).erase w, (g.stage j).distance <
        ∑ j ∈ (Finset.range n).erase w, (f.stage j).distance := by
      refine Finset.sum_lt_sum (fun j other => ?_)
        ⟨i, Finset.mem_erase.mpr ⟨ne.symm, Finset.mem_range.mpr bound⟩, moves.nearer⟩
      by_cases same : j = i
      · subst same
        exact moves.nearer.le
      · have apart := (Finset.mem_erase.mp other).1
        rw [moves.others j same fun got => apart (Option.some.inj got).symm]
    rw [split f, split g, waiting, granted]
    change 2 + _ + 1 < 3 + _
    omega

/-- A fan-out in which nothing has been asked has four moves to make for every insert. -/
theorem work_ofCap (n : Nat) (cap : Option Nat) : (ofCap cap).work n = 4 * n := by
  have new (i : Nat) : (ofCap cap).stage i = .new := stage_eq_new.mpr (by simp [asked, ofCap])
  simp [work, new, Stage.distance, Nat.mul_comm]

end Progress

end FanOut

end TableSeed
