import Mathlib.Data.Set.Card
import Breero.Booking.Timezones

/-!
Wall-clock times and the instants they stand for, in any zone with the standard folds.

* `Zone.Standard` is what a fold means, and `Zone.transition` a zone with one transition, which
  may be a fold or a gap of any size;
* `Zone.exists_standard`: offsets under which no wall-clock time comes three times have their
  folds;
* `Zone.Standard.folds_eq` lists the folds of a wall-clock time by its instants;
* `localToUtc_exact` says what `local_to_utc` answers, and `gap_with_fold` what it answers in a
  gap.
-/

namespace Breero.Bookings
open Transaction

namespace Zone

variable {zone : Zone} {value : LocalTime} {u w : Instant}

/-- The instants with that wall-clock time. -/
def instants (zone : Zone) (value : LocalTime) : Set Instant := { u | zone.toLocal u = value }

/-- The instant is the one with that wall-clock time and so many earlier ones. -/
def IsNth (zone : Zone) (value : LocalTime) (fold : Bool) (u : Instant) : Prop :=
  u ∈ zone.instants value ∧ { w ∈ zone.instants value | w < u }.encard = fold.toNat

/-- The fold of an instant says whether its wall-clock time has come before, and with its fold
the wall-clock time has the offset of the instant. -/
structure Standard (zone : Zone) : Prop where
  fold : ∀ u, zone.foldAt u = true ↔ ∃ w < u, zone.toLocal w = zone.toLocal u
  offset : ∀ u, zone.utcoffset (zone.toLocal u) (zone.foldAt u) = zone.offsetAt u

/-! ## Zones -/

/-- A zone with one transition. Between the two wall-clock times at it, the fold chooses the
offset: the values there come twice if the offset shrinks, and never if it grows. -/
def transition (before after at' : Int) : Zone where
  offsetAt (u : Int) := if u < at' then before else after
  foldAt (u : Int) := at' ≤ u ∧ u + after < at' + before
  utcoffset (value : Int) fold :=
    if value < at' + min before after then before
    else if at' + max before after ≤ value then after
    else if fold then after else before

theorem transition_toLocal (before after at' u : Int) :
    (transition before after at').toLocal u = u + if u < at' then before else after := rfl

theorem transition_fold (before after at' u : Int) :
    (transition before after at').foldAt u = true ↔
      ∃ w < u, (w + if w < at' then before else after) = u + if u < at' then before else after := by
  simp only [transition, decide_eq_true_eq]
  constructor
  · rintro ⟨hat, hearly⟩
    have hbefore : u + after - before < at' := by omega
    refine ⟨u + after - before, by omega, ?_⟩
    rw [if_pos hbefore, if_neg (Int.not_lt.mpr hat)]
    omega
  · rintro ⟨w, hw, hsame⟩
    split at hsame
    · split at hsame
      · omega
      · omega
    · split at hsame
      · omega
      · omega

theorem transition_offset (before after at' u : Int) :
    (transition before after at').utcoffset ((transition before after at').toLocal u)
      ((transition before after at').foldAt u) = (transition before after at').offsetAt u := by
  rw [transition_toLocal]
  simp only [transition]
  by_cases hu : u < at'
  · have hat : ¬ (at' ≤ u ∧ u + after < at' + before) := by omega
    simp only [hu, if_true, hat, decide_false, Bool.false_eq_true, if_false]
    split
    · rfl
    · rw [if_neg (by omega)]
  · simp only [hu, if_false]
    rw [if_neg (by omega)]
    by_cases hfold : at' ≤ u ∧ u + after < at' + before
    · simp only [hfold, and_self, decide_true, if_true]
      split <;> rfl
    · rw [if_pos (by omega)]

theorem transition_standard (before after at' : Int) :
    (transition before after at').Standard :=
  ⟨transition_fold before after at', transition_offset before after at'⟩

/-- Offsets under which no wall-clock time comes three times have their folds. -/
theorem exists_standard (offsetAt : Int → Int)
    (htwice : ∀ u v w : Int, u < v → v < w → u + offsetAt u = v + offsetAt v →
      v + offsetAt v ≠ w + offsetAt w) :
    ∃ zone : Zone, zone.offsetAt = offsetAt ∧ zone.Standard := by
  classical
  let again (u : Int) : Bool := decide (∃ w < u, w + offsetAt w = u + offsetAt u)
  have hsame : ∀ u w : Int, u < w → u + offsetAt u = w + offsetAt w → again u ≠ again w := by
    intro u w huw heq hagain
    have hlater : again w = true := decide_eq_true ⟨u, huw, heq⟩
    obtain ⟨v, hv, hvu⟩ := of_decide_eq_true (hagain.trans hlater)
    exact htwice v u w hv huw hvu heq
  let offset (value : Int) (fold : Bool) : Int :=
    if h : ∃ u, u + offsetAt u = value ∧ again u = fold then offsetAt h.choose else 0
  refine ⟨⟨offsetAt, again, offset⟩, rfl, fun u => decide_eq_true_iff, fun u => ?_⟩
  have h : ∃ w, w + offsetAt w = u + offsetAt u ∧ again w = again u := ⟨u, rfl, rfl⟩
  have hchosen : h.choose = u := by
    obtain ⟨hvalue, hfold⟩ := h.choose_spec
    rcases lt_trichotomy h.choose u with hlt | heq | hlt
    · exact absurd hfold (hsame _ _ hlt hvalue)
    · exact heq
    · exact absurd hfold.symm (hsame _ _ hlt hvalue.symm)
  show offset (u + offsetAt u) (again u) = offsetAt u
  rw [show offset (u + offsetAt u) (again u) = offsetAt h.choose from dif_pos h, hchosen]

/-! ## Instants of a wall-clock time -/

namespace Standard

/-- With the fold of an instant, its wall-clock time is turned back into it. -/
theorem toUtc_eq (h : zone.Standard) (u : Instant) :
    zone.toUtc (zone.toLocal u) (zone.foldAt u) = u := by
  rw [toUtc, h.offset]
  exact Int.add_sub_cancel u (zone.offsetAt u)

theorem unique (h : zone.Standard) (hlocal : zone.toLocal u = zone.toLocal w)
    (hfold : zone.foldAt u = zone.foldAt w) : u = w := by
  rw [← h.toUtc_eq u, ← h.toUtc_eq w, hlocal, hfold]

/-- The fold counts the earlier instants with the same wall-clock time. -/
theorem earlier_encard (h : zone.Standard) (u : Instant) :
    { w ∈ zone.instants (zone.toLocal u) | w < u }.encard = (zone.foldAt u).toNat := by
  cases hfold : zone.foldAt u with
  | false =>
    have hnone : { w ∈ zone.instants (zone.toLocal u) | w < u } = ∅ := by
      refine Set.eq_empty_iff_forall_notMem.mpr ?_
      rintro w ⟨hlocal, hw⟩
      have hagain := (h.fold u).mpr ⟨w, hw, hlocal⟩
      rw [hfold] at hagain
      cases hagain
    rw [hnone]
    exact Set.encard_empty
  | true =>
    obtain ⟨w, hw, hlocal⟩ := (h.fold u).mp hfold
    have hone : { w ∈ zone.instants (zone.toLocal u) | w < u } = {w} := by
      refine Set.eq_singleton_iff_unique_mem.mpr ⟨⟨hlocal, hw⟩, ?_⟩
      rintro v ⟨hsame, hv⟩
      have hvw : zone.toLocal v = zone.toLocal w := Eq.trans hsame hlocal.symm
      -- of two earlier instants the later one would have the fold of this one
      rcases lt_trichotomy v w with hlt | heq | hlt
      · have hagain := (h.fold w).mpr ⟨v, hlt, hvw⟩
        have hwu := h.unique hlocal (hagain.trans hfold.symm)
        exact absurd hw (hwu ▸ lt_irrefl w)
      · exact heq
      · have hagain := (h.fold v).mpr ⟨w, hlt, hvw.symm⟩
        have hvu := h.unique hsame (hagain.trans hfold.symm)
        exact absurd hv (hvu ▸ lt_irrefl v)
    rw [hone]
    exact Set.encard_singleton w

theorem isNth_iff (h : zone.Standard) {fold : Bool} :
    zone.IsNth value fold u ↔ u ∈ zone.instants value ∧ zone.foldAt u = fold := by
  refine and_congr_right ?_
  rintro rfl
  rw [h.earlier_encard]
  cases zone.foldAt u <;> cases fold <;> simp

theorem mem_folds (h : zone.Standard) {fold : Bool} :
    (zone.toLocal (zone.toUtc value fold) = value ∧
      zone.foldAt (zone.toUtc value fold) = fold) ↔ ∃ u, zone.IsNth value fold u := by
  simp only [h.isNth_iff]
  constructor
  · rintro ⟨hlocal, hfold⟩
    exact ⟨zone.toUtc value fold, hlocal, hfold⟩
  · rintro ⟨u, rfl, rfl⟩
    rw [h.toUtc_eq]
    exact ⟨rfl, rfl⟩

theorem toUtc_of_isNth (h : zone.Standard) {fold : Bool} (hu : zone.IsNth value fold u) :
    zone.toUtc value fold = u := by
  obtain ⟨rfl, rfl⟩ := h.isNth_iff.mp hu
  exact h.toUtc_eq u

theorem exists_first (h : zone.Standard) (hu : u ∈ zone.instants value) :
    ∃ w, zone.IsNth value false w := by
  cases hfold : zone.foldAt u with
  | false => exact ⟨u, h.isNth_iff.mpr ⟨hu, hfold⟩⟩
  | true =>
    obtain ⟨w, hw, hlocal⟩ := (h.fold u).mp hfold
    refine ⟨w, h.isNth_iff.mpr ⟨hlocal.trans hu, ?_⟩⟩
    by_contra hagain
    have hwu := h.unique hlocal ((Bool.not_eq_false _).mp hagain |>.trans hfold.symm)
    exact absurd hw (hwu ▸ lt_irrefl w)

theorem folds_cons (zone : Zone) (value : LocalTime) :
    folds zone value =
      (if zone.toLocal (zone.toUtc value false) = value ∧
        zone.foldAt (zone.toUtc value false) = false then [false] else []) ++
      (if zone.toLocal (zone.toUtc value true) = value ∧
        zone.foldAt (zone.toUtc value true) = true then [true] else []) := by
  simp only [folds, List.filter_cons, List.filter_nil, decide_eq_true_eq]
  split <;> split <;> rfl

/-- A wall-clock time has no instant, one, or an earlier and a later one. -/
theorem folds_eq (h : zone.Standard) (value : LocalTime) :
    (zone.instants value = ∅ ∧ folds zone value = []) ∨
      (∃ u, zone.instants value = {u} ∧ zone.IsNth value false u ∧
        folds zone value = [false]) ∨
      (∃ u w, u ≠ w ∧ zone.instants value = {u, w} ∧ zone.IsNth value false u ∧
        zone.IsNth value true w ∧ folds zone value = [false, true]) := by
  by_cases hfirst : ∃ u, zone.IsNth value false u
  · obtain ⟨u, hu⟩ := hfirst
    obtain ⟨hlocal, hfold⟩ := h.isNth_iff.mp hu
    by_cases hsecond : ∃ w, zone.IsNth value true w
    · obtain ⟨w, hw⟩ := hsecond
      obtain ⟨hlocal', hfold'⟩ := h.isNth_iff.mp hw
      refine Or.inr (Or.inr ⟨u, w, ?_, ?_, hu, hw, ?_⟩)
      · rintro rfl
        rw [hfold] at hfold'
        cases hfold'
      · refine Set.ext fun v => ⟨fun hv => ?_, ?_⟩
        · cases hfoldv : zone.foldAt v with
          | false => exact Or.inl (h.unique (hv.trans hlocal.symm) (hfoldv.trans hfold.symm))
          | true => exact Or.inr (h.unique (hv.trans hlocal'.symm) (hfoldv.trans hfold'.symm))
        · rintro (rfl | rfl)
          · exact hlocal
          · exact hlocal'
      · rw [folds_cons, if_pos (h.mem_folds.mpr ⟨u, hu⟩), if_pos (h.mem_folds.mpr ⟨w, hw⟩)]
        rfl
    · refine Or.inr (Or.inl ⟨u, ?_, hu, ?_⟩)
      · refine Set.eq_singleton_iff_unique_mem.mpr ⟨hlocal, fun v hv => ?_⟩
        cases hfoldv : zone.foldAt v with
        | false => exact h.unique (Eq.trans hv hlocal.symm) (hfoldv.trans hfold.symm)
        | true => exact absurd ⟨v, h.isNth_iff.mpr ⟨hv, hfoldv⟩⟩ hsecond
      · rw [folds_cons, if_pos (h.mem_folds.mpr ⟨u, hu⟩), if_neg (mt h.mem_folds.mp hsecond)]
        rfl
  · have hnone : zone.instants value = ∅ :=
      Set.eq_empty_iff_forall_notMem.mpr fun u hu => hfirst (h.exists_first hu)
    have hsecond : ¬ ∃ w, zone.IsNth value true w := by
      rintro ⟨w, hw⟩
      exact hfirst (h.exists_first hw.1)
    refine Or.inl ⟨hnone, ?_⟩
    rw [folds_cons, if_neg (mt h.mem_folds.mp hfirst), if_neg (mt h.mem_folds.mp hsecond)]
    rfl

end Standard

end Zone

/-! ## Answers -/

def nonexistentLocalTime : Raised :=
  .domainError "NONEXISTENT_LOCAL_TIME" "Selected local time does not exist" 422

def ambiguousLocalTime : Raised :=
  .domainError "AMBIGUOUS_LOCAL_TIME" "Selected local time occurs twice; choose an offset" 422

def invalidLocalTime : Raised :=
  .domainError "INVALID_LOCAL_TIME" "Selected local-time fold is invalid" 422

section Answers

variable {zones : Zones} {timezoneId : String} {zone : Zone} {value : LocalTime} {u w : Instant}

theorem localToUtc_nonexistent (hzone : zones timezoneId = some zone)
    (hfolds : folds zone value = []) (fold : Option Bool) :
    localToUtc zones value timezoneId fold = .error nonexistentLocalTime := by
  simp [localToUtc, timezone, hzone, hfolds, orRaise, nonexistentLocalTime, bind, Except.bind]

theorem localToUtc_one (hzone : zones timezoneId = some zone)
    (hfolds : folds zone value = [false]) (fold : Option Bool) :
    localToUtc zones value timezoneId fold =
      if fold = some true then .error invalidLocalTime else .ok (zone.toUtc value false) := by
  rcases fold with _ | _ | _ <;>
    simp [localToUtc, timezone, hzone, hfolds, orRaise, require, invalidLocalTime, bind,
      Except.bind, pure, Except.pure]

theorem localToUtc_two (hzone : zones timezoneId = some zone)
    (hfolds : folds zone value = [false, true])
    (hoffsets : zone.utcoffset value false ≠ zone.utcoffset value true) (fold : Option Bool) :
    localToUtc zones value timezoneId fold =
      match fold with
      | none => .error ambiguousLocalTime
      | some fold => .ok (zone.toUtc value fold) := by
  rcases fold with _ | _ | _ <;>
    simp [localToUtc, timezone, hzone, hfolds, orRaise, require, ambiguousLocalTime, bind,
      Except.bind, pure, Except.pure, hoffsets, List.dedup_cons_of_notMem]

/-- What the resolution of a wall-clock time says of its instants. -/
structure ResolvesExactly (zone : Zone) (value : LocalTime)
    (answer : Option Bool → Except Raised Instant) : Prop where
  only : ∀ u, answer none = .ok u ↔ zone.instants value = {u}
  nonexistent : answer none = .error nonexistentLocalTime ↔ zone.instants value = ∅
  ambiguous : answer none = .error ambiguousLocalTime ↔ (zone.instants value).encard = 2
  nth : ∀ fold u, answer (some fold) = .ok u ↔ zone.IsNth value fold u
  invalid : ∀ fold, answer (some fold) = .error invalidLocalTime ↔
    (zone.instants value).Nonempty ∧ ¬ ∃ u, zone.IsNth value fold u
  gap : ∀ fold, answer (some fold) = .error nonexistentLocalTime ↔ zone.instants value = ∅
  back : ∀ fold u, answer fold = .ok u → zone.toLocal u = value

theorem resolves_none {answer : Option Bool → Except Raised Instant}
    (hnone : zone.instants value = ∅)
    (hanswer : ∀ fold, answer fold = .error nonexistentLocalTime) :
    ResolvesExactly zone value answer := by
  have hnth : ∀ fold u, ¬ zone.IsNth value fold u := by
    rintro fold u ⟨hu, _⟩
    rw [hnone] at hu
    exact hu
  constructor <;>
    simp [hanswer, hnone, hnth, nonexistentLocalTime, ambiguousLocalTime, invalidLocalTime]

theorem isNth_unique (h : zone.Standard) {fold : Bool} (hu : zone.IsNth value fold u)
    (hw : zone.IsNth value fold w) : u = w :=
  (h.toUtc_of_isNth hu).symm.trans (h.toUtc_of_isNth hw)

theorem resolves_one (h : zone.Standard) {answer : Option Bool → Except Raised Instant}
    (hone : zone.instants value = {u}) (hu : zone.IsNth value false u)
    (hanswer : ∀ fold, answer fold =
      if fold = some true then .error invalidLocalTime else .ok u) :
    ResolvesExactly zone value answer := by
  have hfirst : ∀ w, zone.IsNth value false w ↔ u = w := fun w =>
    ⟨isNth_unique h hu, fun hw => hw ▸ hu⟩
  have hsecond : ∀ w, ¬ zone.IsNth value true w := by
    intro w hw
    have hmem : w ∈ ({u} : Set Instant) := hone ▸ hw.1
    rw [Set.mem_singleton_iff.mp hmem] at hw
    have hfold := (h.isNth_iff.mp hw).2
    rw [(h.isNth_iff.mp hu).2] at hfold
    cases hfold
  have hlocal : zone.toLocal u = value := hu.1
  constructor
  · simp [hanswer, hone]
  · simp [hanswer, hone]
  · simp [hanswer, hone]
  · rintro (_ | _) w
    · simp [hanswer, hfirst]
    · simp [hanswer, hsecond]
  · rintro (_ | _)
    · simp [hanswer, hfirst]
    · simp [hanswer, hsecond, hone]
  · rintro (_ | _)
    · simp [hanswer, hone]
    · simp [hanswer, hone, invalidLocalTime, nonexistentLocalTime]
  · rintro (_ | _ | _) w hw
    · simp [hanswer] at hw
      rw [← hw, hlocal]
    · simp [hanswer] at hw
      rw [← hw, hlocal]
    · simp [hanswer] at hw

theorem resolves_two (h : zone.Standard) {answer : Option Bool → Except Raised Instant}
    (hne : u ≠ w) (htwo : zone.instants value = {u, w}) (hu : zone.IsNth value false u)
    (hw : zone.IsNth value true w)
    (hanswer : ∀ fold, answer fold =
      match fold with
      | none => .error ambiguousLocalTime
      | some fold => .ok (if fold then w else u)) : ResolvesExactly zone value answer := by
  have hfirst : ∀ v, zone.IsNth value false v ↔ u = v := fun v =>
    ⟨isNth_unique h hu, fun hv => hv ▸ hu⟩
  have hsecond : ∀ v, zone.IsNth value true v ↔ w = v := fun v =>
    ⟨isNth_unique h hw, fun hv => hv ▸ hw⟩
  have hlocal : zone.toLocal u = value := hu.1
  have hlocal' : zone.toLocal w = value := hw.1
  have hnonempty : ({u, w} : Set Instant) ≠ ∅ := (Set.insert_nonempty u {w}).ne_empty
  constructor
  · intro v
    simp only [hanswer, htwo, reduceCtorEq, false_iff]
    intro hpair
    have hvu : u = v := by simpa [hpair] using (Set.mem_insert u {w} : u ∈ ({u, w} : Set Instant))
    have hvw : w = v := by
      simpa [hpair] using (Set.mem_insert_of_mem u rfl : w ∈ ({u, w} : Set Instant))
    exact hne (hvu.trans hvw.symm)
  · simp [hanswer, htwo, hnonempty, ambiguousLocalTime, nonexistentLocalTime]
  · simp [hanswer, htwo, Set.encard_pair hne]
  · rintro (_ | _) v
    · simp [hanswer, hfirst]
    · simp [hanswer, hsecond]
  · rintro (_ | _)
    · simp [hanswer, hfirst]
    · simp [hanswer, hsecond]
  · rintro (_ | _)
    · simp [hanswer, htwo, hnonempty]
    · simp [hanswer, htwo, hnonempty]
  · rintro (_ | _ | _) v hv
    · simp [hanswer] at hv
    · simp [hanswer] at hv
      rw [← hv, hlocal]
    · simp [hanswer] at hv
      rw [← hv, hlocal']

theorem localToUtc_resolves (hzone : zones timezoneId = some zone) (hstandard : zone.Standard)
    (value : LocalTime) : ResolvesExactly zone value (localToUtc zones value timezoneId) := by
  rcases hstandard.folds_eq value with ⟨hnone, hfolds⟩ | ⟨u, hone, hu, hfolds⟩ |
    ⟨u, w, hne, htwo, hu, hw, hfolds⟩
  · exact resolves_none hnone (localToUtc_nonexistent hzone hfolds)
  · refine resolves_one hstandard hone hu fun fold => ?_
    rw [localToUtc_one hzone hfolds, hstandard.toUtc_of_isNth hu]
  · have hfirst := hstandard.toUtc_of_isNth hu
    have hsecond := hstandard.toUtc_of_isNth hw
    have hoffsets : zone.utcoffset value false ≠ zone.utcoffset value true := by
      intro hsame
      refine hne (hfirst.symm.trans (Eq.trans ?_ hsecond))
      rw [Zone.toUtc, Zone.toUtc, hsame]
    refine resolves_two hstandard hne htwo hu hw fun fold => ?_
    rw [localToUtc_two hzone hfolds hoffsets]
    rcases fold with _ | _ | _
    · rfl
    · exact congrArg Except.ok hfirst
    · exact congrArg Except.ok hsecond

/-- Any offsets under which no wall-clock time comes three times. -/
theorem exists_resolving (offsetAt : Int → Int)
    (htwice : ∀ u v w : Int, u < v → v < w → u + offsetAt u = v + offsetAt v →
      v + offsetAt v ≠ w + offsetAt w) :
    ∃ zone : Zone, zone.offsetAt = offsetAt ∧ ∀ zones timezoneId,
      zones timezoneId = some zone → ∀ value,
        ResolvesExactly zone value (localToUtc zones value timezoneId) := by
  obtain ⟨zone, hoffset, hstandard⟩ := Zone.exists_standard offsetAt htwice
  exact ⟨zone, hoffset, fun _ _ hzone => localToUtc_resolves hzone hstandard⟩

theorem localInterval_follows {startLocal endLocal : LocalTime} {startFold endFold : Option Bool}
    {interval : LocalizedInterval}
    (h : localInterval zones startLocal endLocal timezoneId startFold endFold = .ok interval) :
    interval.startUtc < interval.endUtc := by
  simp only [localInterval, seq_committed, require_committed, return_committed] at h
  obtain ⟨startUtc, _, endUtc, _, _, hfollows, rfl⟩ := h
  exact hfollows

/-- Wall-clock times are resolved exactly, and an interval of them ends after it starts. -/
theorem localToUtc_exact (hzone : zones timezoneId = some zone) (hstandard : zone.Standard) :
    (∀ value, ResolvesExactly zone value (localToUtc zones value timezoneId)) ∧
      ∀ startLocal endLocal startFold endFold interval,
        localInterval zones startLocal endLocal timezoneId startFold endFold = .ok interval →
          interval.startUtc < interval.endUtc :=
  ⟨localToUtc_resolves hzone hstandard, fun _ _ _ _ _ => localInterval_follows⟩

end Answers

/-! ### The clocks of New York in 2026 -/

/-- The clocks go from five to four hours behind on the 8th of March at two. -/
def springForward : Zone :=
  .transition (ofMinutes (-300)) (ofMinutes (-240)) (20520 * dayLength + ofMinutes 420)

theorem localToUtc_exact_spring : springForward.Standard ∧
    (∀ value, ResolvesExactly springForward value
      (localToUtc (fun _ => some springForward) value "America/New_York")) ∧
    ∀ startLocal endLocal startFold endFold interval,
      localInterval (fun _ => some springForward) startLocal endLocal "America/New_York" startFold
        endFold = .ok interval → interval.startUtc < interval.endUtc :=
  ⟨Zone.transition_standard _ _ _, localToUtc_exact rfl (Zone.transition_standard _ _ _)⟩

/-- Half past two on that day. -/
def halfPastTwo : LocalTime := 20520 * dayLength + ofMinutes 150

theorem halfPastTwo_skipped (u : Int) : springForward.toLocal u ≠ halfPastTwo := by
  have hlocal := Zone.transition_toLocal (ofMinutes (-300)) (ofMinutes (-240))
    (20520 * dayLength + ofMinutes 420) u
  intro hu
  have hvalue : (u + if u < 20520 * dayLength + ofMinutes 420 then ofMinutes (-300)
      else ofMinutes (-240) : Int) = 20520 * dayLength + ofMinutes 150 := hlocal.symm.trans hu
  unfold ofMinutes dayLength at hvalue
  split at hvalue
  · omega
  · omega

/-- In a gap there is no instant for a fold either, and that is what is raised. -/
theorem gap_with_fold : springForward.Standard ∧
    (¬ ∃ u, springForward.IsNth halfPastTwo false u) ∧
      localToUtc (fun _ => some springForward) halfPastTwo "America/New_York" (some false) ≠
        .error invalidLocalTime := by
  refine ⟨Zone.transition_standard _ _ _, ?_, ?_⟩
  · rintro ⟨u, hu, _⟩
    exact halfPastTwo_skipped u hu
  · have hraised : localToUtc (fun _ => some springForward) halfPastTwo "America/New_York"
        (some false) = .error nonexistentLocalTime := rfl
    rw [hraised]
    simp [nonexistentLocalTime, invalidLocalTime]

end Breero.Bookings
