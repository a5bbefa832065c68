import Breero.Booking.Matching

/-!
The capacity calendar of a provider, and the limits and the usage that the matcher computes for a
professional of theirs.

* `capacityCalendar` is the calendar, from the rows that it reads to its days;
* `AgreesWith` says that a day of it shows what the matcher works with;
* `RuleAgrees` and `LoadAgrees` are about the rules in force and about the jobs and holds of the
  day: which ones only one of the two counts;
* `calendar_agrees_iff`: a day agrees if and only if both hold.
-/

namespace Breero.Workforce
open KeyedTable Transaction Bookings

/-! ## The calendar -/

structure CapacityDay where
  date : Int
  totalMinutes : Int
  reservedMinutes : Int
  bookingMinutes : Int
  bufferMinutes : Int
  remainingMinutes : Int
  jobCount : Int
  maxJobCount : Int
  deriving DecidableEq, Repr

/-- The rule is in force on the date. -/
def inForce (date : Int) (rule : ProviderCapacityRule) : Bool :=
  rule.effectiveFrom ≤ date && rule.effectiveUntil.all (date ≤ ·)

/-- The rules of the vendor that are in force on one of the dates. -/
def rulesBetween (dir : Directory) (vendorId : Uuid) (start stop : Int) :
    List ProviderCapacityRule :=
  dir.capacityRules.filter fun rule =>
    rule.providerId = vendorId && rule.effectiveFrom < stop && rule.effectiveUntil.all (start ≤ ·)

/-- The instant is on one of the dates, in UTC. -/
def isBetween (start stop instant : Int) : Bool :=
  start * dayLength ≤ instant && instant < stop * dayLength

def jobsBetween (db : Db) (vendorId : Uuid) (start stop : Int) : List Job :=
  db.jobs.rows.filter fun job =>
    job.vendorId = some vendorId && isBetween start stop job.scheduledStart &&
    job.status ≠ .cancelled

/-- `professional_ids` -/
def professionalIds (rules : List ProviderCapacityRule) : List Uuid :=
  rules.filterMap (·.professionalId)

def holdsBetween (db : Db) (now : Instant) (vendorId : Uuid) (professionals : List Uuid)
    (start stop : Int) : List BookingCapacityHold :=
  if professionals = [] then []
  else db.holds.rows.filter fun hold =>
    hold.providerCandidateId = vendorId && hold.professionalCandidateId ∈ professionals &&
    isBetween start stop hold.slotStartUtc && hold.status = .held && now < hold.expiresAt

/-- `max(int(seconds // 60), 0)` -/
def wholeMinutes (job : Job) : Int :=
  max ((job.scheduledEnd - job.scheduledStart) / 60000000) 0

/-- One pass of the loop. -/
def capacityDay (date : Int) (rules : List ProviderCapacityRule) (jobs : List Job)
    (holds : List BookingCapacityHold) : CapacityDay :=
  let activeRules := rules.filter (inForce date)
  let dayJobs := jobs.filter fun job => dateOf job.scheduledStart = date
  let dayHolds := holds.filter fun hold => dateOf hold.slotStartUtc = date
  let totalMinutes := (activeRules.map (·.maxMinutesDaily)).sum
  let bookingMinutes := (dayJobs.map wholeMinutes).sum
  let holdMinutes := (dayHolds.map (·.capacityMinutes)).sum
  { date
    totalMinutes
    reservedMinutes := bookingMinutes + holdMinutes
    bookingMinutes
    bufferMinutes := holdMinutes
    remainingMinutes := max (totalMinutes - (bookingMinutes + holdMinutes)) 0
    jobCount := dayJobs.length + dayHolds.length
    maxJobCount := (activeRules.map (·.maxJobsDaily)).sum }

/-- `capacity_calendar` of the vendor -/
def capacityCalendar (dir : Directory) (db : Db) (now : Instant) (vendorId : Uuid) (start : Int)
    (days : Nat) : List CapacityDay :=
  let stop := start + days
  let rules := rulesBetween dir vendorId start stop
  let jobs := jobsBetween db vendorId start stop
  let holds := holdsBetween db now vendorId (professionalIds rules) start stop
  (List.range days).map fun (offset : Nat) => capacityDay (start + offset) rules jobs holds

/-! ## Agreement -/

/-- The local day of a date, as `_usage` bounds it. -/
def localDay (zone : Zone) (date : Int) : Day where
  date
  start := zone.toUtc (date * dayLength) false
  stop := zone.toUtc (date * dayLength + (dayLength - 1)) false

/-- The usage of a professional on a local day; it does not depend on the window. -/
def matcherUsage (db : Db) (now : Instant) (workerId : Uuid) (zone : Zone) (date : Int) :
    CapacityUsage :=
  (usage (loadOn db now workerId (localDay zone date)) 0 0).1

theorem matcherUsage_minutes (db : Db) (now : Instant) (workerId : Uuid) (zone : Zone)
    (date : Int) :
    (matcherUsage db now workerId zone date).reservedMinutes =
      ((jobsOn db workerId (localDay zone date)).map fun job =>
          windowMinutes job.scheduledStart job.scheduledEnd).sum +
        ((holdsOn db now workerId (localDay zone date)).map (·.capacityMinutes)).sum := by
  simp only [matcherUsage, usage, loadOn, CapacityUsage.reservedMinutes, add_zero]

/-- The usage that the matcher computes for a window is that of its local day. -/
theorem usage_of_window (db : Db) (now : Instant) (workerId : Uuid) (zone : Zone)
    (start stop : Instant) :
    (usage (loadOn db now workerId (dayOf zone start)) start stop).1 =
      matcherUsage db now workerId zone (dateOf (zone.toLocal start)) := rfl

/-- Whatever an emergency asks for, and whatever its window overlaps, it is refused. -/
def AdmitsNothing (limit : CapacityLimit) (used : CapacityUsage) : Prop :=
  ∀ requestedMinutes overlappingJobs, 0 ≤ overlappingJobs →
    (ensureCapacity limit used requestedMinutes overlappingJobs true).isOk = false

/-- No capacity is shown to remain. -/
def CapacityDay.Full (day : CapacityDay) : Prop :=
  day.remainingMinutes = 0 ∨ day.maxJobCount ≤ day.jobCount

/-- The day shows the limit and the usage of the matcher. -/
structure CapacityDay.AgreesWith (day : CapacityDay) (limit : CapacityLimit)
    (used : CapacityUsage) : Prop where
  totalMinutes : day.totalMinutes = limit.minutesFor true
  reservedMinutes : day.reservedMinutes = used.reservedMinutes
  jobCount : day.jobCount = used.jobCount + used.holdCount
  maxJobCount : day.maxJobCount = limit.jobsFor true
  full : day.Full ↔ AdmitsNothing limit used

/-! ## The rules in force -/

def activeRules (dir : Directory) (vendorId : Uuid) (date : Int) : List ProviderCapacityRule :=
  dir.capacityRules.filter fun rule => rule.providerId = vendorId && inForce date rule

/-- The rule is the vendor's own or that of the professional. -/
def appliesTo (workerId : Uuid) (rule : ProviderCapacityRule) : Bool :=
  rule.professionalId = none || rule.professionalId = some workerId

/-- Exactly one rule of the vendor is in force, and applies to the professional; or none of those
that are in force does, and they add up to what the professional has of their own (to nothing, if
there are none). -/
def RuleAgrees (dir : Directory) (vendorId : Uuid) (worker : Worker) (date : Int) : Prop :=
  (∃ rule, activeRules dir vendorId date = [rule] ∧ appliesTo worker.id rule) ∨
  ((∀ rule ∈ activeRules dir vendorId date, appliesTo worker.id rule = false) ∧
    ((activeRules dir vendorId date).map (·.maxMinutesDaily)).sum = worker.maximumMinutesPerDay ∧
    ((activeRules dir vendorId date).map (·.maxJobsDaily)).sum = worker.maximumJobsPerDay)

/-- What is picked from some elements, one after another, is one of them. -/
theorem foldl_pick_mem {α : Type} {pick : Option α → α → Option α}
    (hpick : ∀ b a, pick (some b) a = some a ∨ pick (some b) a = some b) (l : List α) (b : α) :
    ∃ r ∈ b :: l, l.foldl pick (some b) = some r := by
  induction l generalizing b with
  | nil => exact ⟨b, List.mem_singleton_self b, rfl⟩
  | cons a l ih =>
    rw [List.foldl_cons]
    rcases hpick b a with heq | heq
    · obtain ⟨r, hr, hfold⟩ := ih a
      exact ⟨r, List.mem_cons_of_mem _ hr, by rw [heq, hfold]⟩
    · obtain ⟨r, hr, hfold⟩ := ih b
      refine ⟨r, ?_, by rw [heq, hfold]⟩
      rcases List.mem_cons.mp hr with rfl | hr
      · exact List.mem_cons_self
      · exact List.mem_cons_of_mem _ (List.mem_cons_of_mem _ hr)

/-- The better one of a rule and the best one so far. -/
def betterRule (best : Option ProviderCapacityRule) (rule : ProviderCapacityRule) :
    Option ProviderCapacityRule :=
  match best with
  | none => some rule
  | some b => if rulePrecedes rule b then some rule else some b

theorem ruleInForce_eq (dir : Directory) (vendorId workerId : Uuid) (date : Int) :
    ruleInForce dir vendorId workerId date =
      (dir.capacityRules.filter fun rule => rule.providerId = vendorId ∧
        (rule.professionalId = none ∨ rule.professionalId = some workerId) ∧
        rule.effectiveFrom ≤ date ∧ ∀ last ∈ rule.effectiveUntil, date ≤ last).foldl
          betterRule none := rfl

theorem ruleInForce_cases (dir : Directory) (vendorId workerId : Uuid) (date : Int) :
    (∃ rule ∈ activeRules dir vendorId date, appliesTo workerId rule ∧
      ruleInForce dir vendorId workerId date = some rule) ∨
    ((∀ rule ∈ activeRules dir vendorId date, appliesTo workerId rule = false) ∧
      ruleInForce dir vendorId workerId date = none) := by
  have hrules : (dir.capacityRules.filter fun rule => rule.providerId = vendorId ∧
      (rule.professionalId = none ∨ rule.professionalId = some workerId) ∧
      rule.effectiveFrom ≤ date ∧ ∀ last ∈ rule.effectiveUntil, date ≤ last) =
      (activeRules dir vendorId date).filter (appliesTo workerId) := by
    rw [activeRules, List.filter_filter]
    refine List.filter_congr fun rule _ => ?_
    rw [Bool.eq_iff_iff]
    simp only [appliesTo, inForce, decide_eq_true_eq, Bool.and_eq_true, Bool.or_eq_true,
      Option.all_eq_true]
    tauto
  rw [ruleInForce_eq, hrules]
  cases hl : (activeRules dir vendorId date).filter (appliesTo workerId) with
  | nil =>
    refine .inr ⟨fun rule hrule => ?_, rfl⟩
    simpa using List.filter_eq_nil_iff.mp hl rule hrule
  | cons first rest =>
    have hpick (b a : ProviderCapacityRule) :
        betterRule (some b) a = some a ∨ betterRule (some b) a = some b := by
      simp only [betterRule]
      split
      · exact .inl rfl
      · exact .inr rfl
    obtain ⟨rule, hmem, hbest⟩ := foldl_pick_mem hpick rest first
    rw [← hl] at hmem
    obtain ⟨hactive, happlies⟩ := List.mem_filter.mp hmem
    exact .inl ⟨rule, hactive, happlies, hbest⟩

theorem sum_nonneg_of_pos {α : Type} {f : α → Int} {l : List α} (hpositive : ∀ b ∈ l, 0 < f b) :
    0 ≤ (l.map f).sum := by
  induction l with
  | nil => exact le_refl _
  | cons b l ih =>
    rw [List.map_cons, List.sum_cons]
    have hb := hpositive b List.mem_cons_self
    have hl := ih fun c hc => hpositive c (List.mem_cons_of_mem b hc)
    omega

theorem eq_nil_of_sum_le {α : Type} {f : α → Int} {l : List α} (hpositive : ∀ b ∈ l, 0 < f b)
    (hle : (l.map f).sum ≤ 0) : l = [] := by
  cases l with
  | nil => rfl
  | cons b l =>
    have hb := hpositive b List.mem_cons_self
    have hl := sum_nonneg_of_pos fun c hc => hpositive c (List.mem_cons_of_mem b hc)
    rw [List.map_cons, List.sum_cons] at hle
    omega

/-- Positive numbers add up to one of them only if there is no other. -/
theorem sum_eq_member_iff {α : Type} {f : α → Int} {l : List α} {a : α}
    (hpositive : ∀ b ∈ l, 0 < f b) (ha : a ∈ l) : (l.map f).sum = f a ↔ l = [a] := by
  constructor
  · intro hsum
    obtain ⟨before, after, rfl⟩ := List.append_of_mem ha
    rw [List.map_append, List.map_cons, List.sum_append, List.sum_cons] at hsum
    have hbefore : ∀ b ∈ before, 0 < f b := fun b hb => hpositive b (by simp [hb])
    have hafter : ∀ b ∈ after, 0 < f b := fun b hb => hpositive b (by simp [hb])
    have hleft := sum_nonneg_of_pos hbefore
    have hright := sum_nonneg_of_pos hafter
    rw [eq_nil_of_sum_le hbefore (by omega), eq_nil_of_sum_le hafter (by omega)]
    rfl
  · rintro rfl
    simp

theorem minutes_pos (rule : ProviderCapacityRule) : 0 < rule.maxMinutesDaily := by
  have hbounds := rule.bounds
  omega

theorem jobs_pos (rule : ProviderCapacityRule) : 0 < rule.maxJobsDaily := by
  have hbounds := rule.bounds
  omega

theorem rule_agrees_iff (dir : Directory) (vendorId : Uuid) (worker : Worker) (date : Int) :
    (((activeRules dir vendorId date).map (·.maxMinutesDaily)).sum =
        (limitOn dir vendorId worker date).maxMinutes ∧
      ((activeRules dir vendorId date).map (·.maxJobsDaily)).sum =
        (limitOn dir vendorId worker date).maxJobs) ↔
      RuleAgrees dir vendorId worker date := by
  unfold limitOn RuleAgrees
  rcases ruleInForce_cases dir vendorId worker.id date with
    ⟨rule, hrule, happlies, hforce⟩ | ⟨hnone, hforce⟩
  · -- a rule applies: it is the only one, as each rule has some minutes
    simp only [hforce]
    rw [sum_eq_member_iff (fun rule _ => minutes_pos rule) hrule,
      sum_eq_member_iff (fun rule _ => jobs_pos rule) hrule, and_self]
    constructor
    · exact fun hsingle => .inl ⟨rule, hsingle, happlies⟩
    · rintro (⟨only, hsingle, -⟩ | ⟨hnone, -⟩)
      · rw [hsingle, List.mem_singleton] at hrule
        rw [hsingle, hrule]
      · rw [hnone rule hrule] at happlies
        cases happlies
  · simp only [hforce]
    constructor
    · exact fun h => .inr ⟨hnone, h⟩
    · rintro (⟨only, hsingle, happlies⟩ | ⟨-, h⟩)
      · rw [hnone only (hsingle ▸ List.mem_singleton_self only)] at happlies
        cases happlies
      · exact h

/-! ## The jobs and the holds -/

def calendarJob (vendorId : Uuid) (date : Int) (job : Job) : Bool :=
  job.vendorId = some vendorId && job.status ≠ .cancelled && dateOf job.scheduledStart = date

def calendarHold (now : Instant) (vendorId : Uuid) (professionals : List Uuid) (date : Int)
    (hold : BookingCapacityHold) : Bool :=
  hold.providerCandidateId = vendorId && hold.professionalCandidateId ∈ professionals &&
  hold.status = .held && now < hold.expiresAt && dateOf hold.slotStartUtc = date

def matcherJob (workerId : Uuid) (day : Day) (job : Job) : Bool :=
  liveJob workerId job && day.touches job.scheduledStart job.scheduledEnd

def matcherHold (db : Db) (now : Instant) (workerId : Uuid) (day : Day)
    (hold : BookingCapacityHold) : Bool :=
  liveHold db now workerId hold && day.touches hold.slotStartUtc hold.slotEndUtc

/-- Only the calendar counts the job: it is completed, or of another professional, or starts on
the date in UTC but is not on the local day. -/
def strayJob (vendorId workerId : Uuid) (day : Day) (job : Job) : Bool :=
  calendarJob vendorId day.date job &&
  (job.status = .completed || job.workerId ≠ some workerId ||
    !day.touches job.scheduledStart job.scheduledEnd)

/-- Only the matcher counts the job: it is of another vendor, or is on the local day but does not
start on the date in UTC. -/
def missedJob (vendorId workerId : Uuid) (day : Day) (job : Job) : Bool :=
  matcherJob workerId day job &&
  (job.vendorId ≠ some vendorId || dateOf job.scheduledStart ≠ day.date)

/-- Only the calendar counts the hold: it is for another professional, or starts on the date in UTC
but is not on the local day. -/
def strayHold (now : Instant) (vendorId workerId : Uuid) (professionals : List Uuid) (day : Day)
    (hold : BookingCapacityHold) : Bool :=
  calendarHold now vendorId professionals day.date hold &&
  (hold.professionalCandidateId ≠ workerId || !day.touches hold.slotStartUtc hold.slotEndUtc)

/-- Only the matcher counts the hold: it is converted and its booking has no job yet, or it is of
another vendor, or no rule of the vendor names its professional, or it is on the local day but does
not start on the date in UTC. -/
def missedHold (db : Db) (now : Instant) (vendorId workerId : Uuid) (professionals : List Uuid)
    (day : Day) (hold : BookingCapacityHold) : Bool :=
  matcherHold db now workerId day hold &&
  (hold.status = .converted || hold.providerCandidateId ≠ vendorId || workerId ∉ professionals ||
    dateOf hold.slotStartUtc ≠ day.date)

theorem strayJob_eq (vendorId workerId : Uuid) (day : Day) (job : Job) :
    strayJob vendorId workerId day job =
      (calendarJob vendorId day.date job && !matcherJob workerId day job) := by
  rw [Bool.eq_iff_iff]
  simp only [strayJob, calendarJob, matcherJob, liveJob, Bool.and_eq_true, Bool.or_eq_true,
    Bool.not_eq_true', Bool.and_eq_false_iff, decide_eq_true_eq, decide_eq_false_iff_not,
    List.mem_cons, List.not_mem_nil]
  tauto

theorem missedJob_eq (vendorId workerId : Uuid) (day : Day) (job : Job) :
    missedJob vendorId workerId day job =
      (matcherJob workerId day job && !calendarJob vendorId day.date job) := by
  rw [Bool.eq_iff_iff]
  simp only [missedJob, calendarJob, matcherJob, liveJob, Bool.and_eq_true, Bool.or_eq_true,
    Bool.not_eq_true', Bool.and_eq_false_iff, decide_eq_true_eq, decide_eq_false_iff_not,
    List.mem_cons, List.not_mem_nil]
  tauto

/-- A hold that is held counts for its professional until it expires. -/
theorem liveHold_held {db : Db} {now : Instant} {workerId : Uuid} {hold : BookingCapacityHold}
    (h : hold.status = .held) : liveHold db now workerId hold =
      (decide (hold.professionalCandidateId = workerId) && decide (now < hold.expiresAt)) := by
  simp [liveHold, h]

theorem strayHold_eq (db : Db) (now : Instant) (vendorId workerId : Uuid)
    (professionals : List Uuid) (day : Day) (hold : BookingCapacityHold) :
    strayHold now vendorId workerId professionals day hold =
      (calendarHold now vendorId professionals day.date hold &&
        !matcherHold db now workerId day hold) := by
  by_cases hheld : hold.status = .held
  · rw [Bool.eq_iff_iff]
    simp only [strayHold, calendarHold, matcherHold, liveHold_held hheld, Bool.and_eq_true,
      Bool.or_eq_true, Bool.not_eq_true', Bool.and_eq_false_iff, decide_eq_true_eq,
      decide_eq_false_iff_not]
    tauto
  · simp [strayHold, calendarHold, hheld]

theorem missedHold_eq (db : Db) (now : Instant) (vendorId workerId : Uuid)
    (professionals : List Uuid) (day : Day) (hold : BookingCapacityHold) :
    missedHold db now vendorId workerId professionals day hold =
      (matcherHold db now workerId day hold &&
        !calendarHold now vendorId professionals day.date hold) := by
  by_cases hheld : hold.status = .held
  · rw [Bool.eq_iff_iff]
    simp only [missedHold, calendarHold, matcherHold, liveHold_held hheld, hheld, Bool.and_eq_true,
      Bool.or_eq_true, Bool.not_eq_true', Bool.and_eq_false_iff, decide_eq_true_eq,
      decide_eq_false_iff_not]
    refine and_congr_right ?_
    rintro ⟨⟨rfl, hlive⟩, -⟩
    simp only [hlive, reduceCtorEq]
    tauto
  · -- a hold that is not held is live only if it is converted
    have hlive (h : liveHold db now workerId hold = true) : hold.status = .converted := by
      cases hstatus : hold.status with
      | held => exact absurd hstatus hheld
      | converted => rfl
      | released | expired => simp [liveHold, hstatus] at h
    have hcalendar : calendarHold now vendorId professionals day.date hold = false := by
      simp [calendarHold, hheld]
    rw [hcalendar, missedHold, matcherHold]
    cases h : liveHold db now workerId hold with
    | false => rfl
    | true => simp [hlive h]

/-! ## Sums over two selections -/

/-- The numbers of two selections differ by what only one of them selects. -/
theorem lengths_balance {α : Type} (p q : α → Bool) (l : List α) :
    (l.filter q).length + (l.filter fun a => p a && !q a).length =
      (l.filter p).length + (l.filter fun a => q a && !p a).length := by
  induction l with
  | nil => rfl
  | cons a l ih =>
    cases hp : p a <;> cases hq : q a <;> simp [hp, hq] <;> omega

/-- Two sums over two selections differ by what only one of them selects, and by the differences
over what both select. -/
theorem sums_balance {α : Type} (p q : α → Bool) (f g : α → Int) (l : List α) :
    ((l.filter q).map g).sum + ((l.filter fun a => p a && !q a).map f).sum =
      ((l.filter p).map f).sum + ((l.filter fun a => q a && !p a).map g).sum +
        ((l.filter fun a => p a && q a).map fun a => g a - f a).sum := by
  induction l with
  | nil => rfl
  | cons a l ih =>
    cases hp : p a <;> cases hq : q a <;> simp [hp, hq] <;> omega

section
variable (db : Db) (now : Instant) (vendorId workerId : Uuid) (professionals : List Uuid)
  (day : Day)

def strayJobs : List Job := db.jobs.rows.filter (strayJob vendorId workerId day)

def missedJobs : List Job := db.jobs.rows.filter (missedJob vendorId workerId day)

/-- The jobs that both count. -/
def commonJobs : List Job :=
  db.jobs.rows.filter fun job => calendarJob vendorId day.date job && matcherJob workerId day job

def strayHolds : List BookingCapacityHold :=
  db.holds.rows.filter (strayHold now vendorId workerId professionals day)

def missedHolds : List BookingCapacityHold :=
  db.holds.rows.filter (missedHold db now vendorId workerId professionals day)

/-- What only the calendar counts balances what only the matcher counts, in number and in minutes;
of a job that both count, these are the minutes by which `round` exceeds `//`. -/
structure LoadAgrees : Prop where
  count : (strayJobs db vendorId workerId day).length +
      (strayHolds db now vendorId workerId professionals day).length =
    (missedJobs db vendorId workerId day).length +
      (missedHolds db now vendorId workerId professionals day).length
  minutes : ((strayJobs db vendorId workerId day).map wholeMinutes).sum +
      ((strayHolds db now vendorId workerId professionals day).map (·.capacityMinutes)).sum =
    ((missedJobs db vendorId workerId day).map fun job =>
        windowMinutes job.scheduledStart job.scheduledEnd).sum +
      ((missedHolds db now vendorId workerId professionals day).map (·.capacityMinutes)).sum +
      ((commonJobs db vendorId workerId day).map fun job =>
        windowMinutes job.scheduledStart job.scheduledEnd - wholeMinutes job).sum

end

section
variable {db : Db} {now : Instant} {vendorId workerId : Uuid} {professionals : List Uuid}
  {day : Day}

theorem load_agrees_iff :
    ((db.jobs.rows.filter (calendarJob vendorId day.date)).length +
          (db.holds.rows.filter (calendarHold now vendorId professionals day.date)).length =
        (jobsOn db workerId day).length + (holdsOn db now workerId day).length ∧
      ((db.jobs.rows.filter (calendarJob vendorId day.date)).map wholeMinutes).sum +
          ((db.holds.rows.filter (calendarHold now vendorId professionals day.date)).map
            (·.capacityMinutes)).sum =
        ((jobsOn db workerId day).map fun job =>
            windowMinutes job.scheduledStart job.scheduledEnd).sum +
          ((holdsOn db now workerId day).map (·.capacityMinutes)).sum) ↔
      LoadAgrees db now vendorId workerId professionals day := by
  have hstrayJobs : strayJobs db vendorId workerId day = db.jobs.rows.filter fun job =>
      calendarJob vendorId day.date job && !matcherJob workerId day job :=
    List.filter_congr fun job _ => strayJob_eq vendorId workerId day job
  have hmissedJobs : missedJobs db vendorId workerId day = db.jobs.rows.filter fun job =>
      matcherJob workerId day job && !calendarJob vendorId day.date job :=
    List.filter_congr fun job _ => missedJob_eq vendorId workerId day job
  have hstrayHolds : strayHolds db now vendorId workerId professionals day =
      db.holds.rows.filter fun hold => calendarHold now vendorId professionals day.date hold &&
        !matcherHold db now workerId day hold :=
    List.filter_congr fun hold _ => strayHold_eq db now vendorId workerId professionals day hold
  have hmissedHolds : missedHolds db now vendorId workerId professionals day =
      db.holds.rows.filter fun hold => matcherHold db now workerId day hold &&
        !calendarHold now vendorId professionals day.date hold :=
    List.filter_congr fun hold _ => missedHold_eq db now vendorId workerId professionals day hold
  have hjobs := lengths_balance (calendarJob vendorId day.date) (matcherJob workerId day)
    db.jobs.rows
  have hholds := lengths_balance (calendarHold now vendorId professionals day.date)
    (matcherHold db now workerId day) db.holds.rows
  have hjobMinutes := sums_balance (calendarJob vendorId day.date) (matcherJob workerId day)
    wholeMinutes (fun job => windowMinutes job.scheduledStart job.scheduledEnd) db.jobs.rows
  have hholdMinutes := sums_balance (calendarHold now vendorId professionals day.date)
    (matcherHold db now workerId day) (·.capacityMinutes) (·.capacityMinutes) db.holds.rows
  have hsame : ((db.holds.rows.filter fun hold =>
      calendarHold now vendorId professionals day.date hold &&
        matcherHold db now workerId day hold).map
        fun hold => hold.capacityMinutes - hold.capacityMinutes).sum = 0 := by
    simp
  rw [hsame] at hholdMinutes
  rw [← hstrayJobs, ← hmissedJobs] at hjobs hjobMinutes
  rw [← hstrayHolds, ← hmissedHolds] at hholds hholdMinutes
  have hcommon : (db.jobs.rows.filter fun job =>
      calendarJob vendorId day.date job && matcherJob workerId day job) =
      commonJobs db vendorId workerId day := rfl
  have hjobsOn : db.jobs.rows.filter (matcherJob workerId day) = jobsOn db workerId day := rfl
  have hholdsOn : db.holds.rows.filter (matcherHold db now workerId day) =
      holdsOn db now workerId day := rfl
  rw [hjobsOn] at hjobs hjobMinutes
  rw [hholdsOn] at hholds hholdMinutes
  rw [hcommon] at hjobMinutes
  constructor
  · rintro ⟨hcount, hminutes⟩
    exact ⟨by omega, by omega⟩
  · rintro ⟨hcount, hminutes⟩
    exact ⟨by omega, by omega⟩

end

/-! ## A day of the calendar -/

theorem isBetween_of_date {start stop date instant : Int} (hdate : dateOf instant = date)
    (hstart : start ≤ date) (hstop : date < stop) : isBetween start stop instant = true := by
  simp only [isBetween, Bool.and_eq_true, decide_eq_true_eq]
  unfold dateOf dayLength at *
  constructor
  · omega
  · omega

theorem rulesBetween_on (dir : Directory) (vendorId : Uuid) {start stop date : Int}
    (hstart : start ≤ date) (hstop : date < stop) :
    (rulesBetween dir vendorId start stop).filter (inForce date) =
      activeRules dir vendorId date := by
  rw [rulesBetween, activeRules, List.filter_filter]
  refine List.filter_congr fun rule _ => ?_
  rw [Bool.eq_iff_iff]
  simp only [inForce, Bool.and_eq_true, decide_eq_true_eq, Option.all_eq_true]
  constructor
  · rintro ⟨hforce, ⟨hvendor, -⟩, -⟩
    exact ⟨hvendor, hforce⟩
  · rintro ⟨hvendor, hfrom, huntil⟩
    refine ⟨⟨hfrom, huntil⟩, ⟨hvendor, by omega⟩, fun last hlast => ?_⟩
    have hle := huntil last hlast
    omega

theorem jobsBetween_on (db : Db) (vendorId : Uuid) {start stop date : Int}
    (hstart : start ≤ date) (hstop : date < stop) :
    ((jobsBetween db vendorId start stop).filter fun job => dateOf job.scheduledStart = date) =
      db.jobs.rows.filter (calendarJob vendorId date) := by
  rw [jobsBetween, List.filter_filter]
  refine List.filter_congr fun job _ => ?_
  rw [Bool.eq_iff_iff]
  simp only [calendarJob, Bool.and_eq_true, decide_eq_true_eq]
  constructor
  · rintro ⟨hdate, ⟨hvendor, -⟩, hstatus⟩
    exact ⟨⟨hvendor, hstatus⟩, hdate⟩
  · rintro ⟨⟨hvendor, hstatus⟩, hdate⟩
    exact ⟨hdate, ⟨hvendor, isBetween_of_date hdate hstart hstop⟩, hstatus⟩

theorem holdsBetween_on (db : Db) (now : Instant) (vendorId : Uuid) (professionals : List Uuid)
    {start stop date : Int} (hstart : start ≤ date) (hstop : date < stop) :
    ((holdsBetween db now vendorId professionals start stop).filter fun hold =>
        dateOf hold.slotStartUtc = date) =
      db.holds.rows.filter (calendarHold now vendorId professionals date) := by
  unfold holdsBetween
  split
  · next hnone =>
    symm
    rw [List.filter_nil, List.filter_eq_nil_iff]
    intro hold _
    simp [calendarHold, hnone]
  · rw [List.filter_filter]
    refine List.filter_congr fun hold _ => ?_
    rw [Bool.eq_iff_iff]
    simp only [calendarHold, Bool.and_eq_true, decide_eq_true_eq]
    constructor
    · rintro ⟨hdate, ⟨⟨hvendor, -⟩, hheld⟩, hexpires⟩
      exact ⟨⟨⟨hvendor, hheld⟩, hexpires⟩, hdate⟩
    · rintro ⟨⟨⟨hvendor, hheld⟩, hexpires⟩, hdate⟩
      exact ⟨hdate, ⟨⟨hvendor, isBetween_of_date hdate hstart hstop⟩, hheld⟩, hexpires⟩

/-- What a day of the calendar shows, from the rows that are there. -/
theorem day_eq {dir : Directory} {db : Db} {now : Instant} {vendorId : Uuid} {start : Int}
    {days : Nat} {day : CapacityDay}
    (h : day ∈ capacityCalendar dir db now vendorId start days) :
    let rules := activeRules dir vendorId day.date
    let jobs := db.jobs.rows.filter (calendarJob vendorId day.date)
    let holds := db.holds.rows.filter (calendarHold now vendorId
      (professionalIds (rulesBetween dir vendorId start (start + days))) day.date)
    day.totalMinutes = (rules.map (·.maxMinutesDaily)).sum ∧
      day.maxJobCount = (rules.map (·.maxJobsDaily)).sum ∧
      day.jobCount = jobs.length + holds.length ∧
      day.reservedMinutes = (jobs.map wholeMinutes).sum + (holds.map (·.capacityMinutes)).sum ∧
      day.remainingMinutes = max (day.totalMinutes - day.reservedMinutes) 0 := by
  obtain ⟨offset, hoffset, rfl⟩ := List.mem_map.mp h
  have hstart : start ≤ start + offset := by omega
  have hstop : start + offset < start + days := by
    have hlt := List.mem_range.mp hoffset
    omega
  simp only [capacityDay, rulesBetween_on dir vendorId hstart hstop,
    jobsBetween_on db vendorId hstart hstop, holdsBetween_on db now vendorId _ hstart hstop,
    and_self]

theorem limit_concurrent (dir : Directory) (vendorId : Uuid) (worker : Worker) (date : Int) :
    0 < (limitOn dir vendorId worker date).maxConcurrentJobs := by
  unfold limitOn
  split
  · next rule _ =>
    have hbounds := rule.bounds
    show 0 < rule.maxConcurrentJobs
    omega
  · exact one_pos

/-- A limit is exhausted, or there is none. -/
theorem admitsNothing_iff {limit : CapacityLimit} {used : CapacityUsage}
    (hconcurrent : 0 < limit.maxConcurrentJobs) :
    AdmitsNothing limit used ↔ limit.maxJobs ≤ 0 ∨ limit.maxMinutes ≤ 0 ∨
      limit.maxJobs ≤ used.jobCount + used.holdCount ∨ limit.maxMinutes ≤ used.reservedMinutes := by
  constructor
  · intro hnothing
    by_contra hroom
    simp only [not_or, not_le] at hroom
    have hadmitted : (ensureCapacity limit used 1 0 true).isOk := by
      refine ensureCapacity_admits.mpr
        ⟨⟨hroom.1, hroom.2.1, hconcurrent⟩, one_pos, hroom.2.2.1, ?_, hconcurrent⟩
      exact Int.add_one_le_of_lt hroom.2.2.2
    rw [hnothing 1 0 (le_refl 0)] at hadmitted
    cases hadmitted
  · intro hfull requestedMinutes overlappingJobs _
    rw [Bool.eq_false_iff]
    intro hadmitted
    obtain ⟨hpositive, hasked, hjobs, hminutes, -⟩ := ensureCapacity_admits.mp hadmitted
    simp only [CapacityLimit.jobsFor, CapacityLimit.minutesFor, if_true] at hjobs hminutes
    omega

/-- A day of the calendar agrees with the matcher if and only if the rules in force do, and the jobs
and the holds that are counted. -/
theorem calendar_agrees_iff (dir : Directory) (db : Db) (now : Instant) (vendorId : Uuid)
    (worker : Worker) (zone : Zone) (start : Int) (days : Nat) (day : CapacityDay)
    (hday : day ∈ capacityCalendar dir db now vendorId start days) :
    day.AgreesWith (limitOn dir vendorId worker day.date)
        (matcherUsage db now worker.id zone day.date) ↔
      RuleAgrees dir vendorId worker day.date ∧
        LoadAgrees db now vendorId worker.id
          (professionalIds (rulesBetween dir vendorId start (start + days)))
          (localDay zone day.date) := by
  obtain ⟨htotal, hmax, hcount, hreserved, hremaining⟩ := day_eq hday
  rw [← rule_agrees_iff, ← load_agrees_iff]
  constructor
  · intro h
    refine ⟨⟨htotal.symm.trans h.totalMinutes, hmax.symm.trans h.maxJobCount⟩, ?_, ?_⟩
    · have hjobs := hcount.symm.trans h.jobCount
      simp only [matcherUsage, usage, loadOn] at hjobs
      exact_mod_cast hjobs
    · exact (hreserved.symm.trans h.reservedMinutes).trans (matcherUsage_minutes _ _ _ _ _)
  · rintro ⟨⟨hminutes, hjobs⟩, hcounts, hreserves⟩
    have htotal' : day.totalMinutes = (limitOn dir vendorId worker day.date).maxMinutes :=
      htotal.trans hminutes
    have hmax' : day.maxJobCount = (limitOn dir vendorId worker day.date).maxJobs :=
      hmax.trans hjobs
    have hcount' : day.jobCount = (matcherUsage db now worker.id zone day.date).jobCount +
        (matcherUsage db now worker.id zone day.date).holdCount := by
      rw [hcount]
      simp only [matcherUsage, usage, loadOn]
      exact_mod_cast hcounts
    have hreserved' : day.reservedMinutes =
        (matcherUsage db now worker.id zone day.date).reservedMinutes := by
      rw [hreserved, matcherUsage_minutes]
      exact hreserves
    refine ⟨htotal', hreserved', hcount', hmax', ?_⟩
    rw [admitsNothing_iff (limit_concurrent dir vendorId worker day.date), CapacityDay.Full,
      ← htotal', ← hmax', ← hcount', ← hreserved']
    -- a day without minutes has no rules, and so no jobs
    have hnone : day.totalMinutes ≤ 0 → day.maxJobCount ≤ day.jobCount := by
      intro hle
      rw [htotal] at hle
      rw [hmax, hcount, eq_nil_of_sum_le (fun rule _ => minutes_pos rule) hle]
      exact Int.add_nonneg (Int.natCast_nonneg _) (Int.natCast_nonneg _)
    have hcountpos : 0 ≤ day.jobCount := by
      rw [hcount]
      exact Int.add_nonneg (Int.natCast_nonneg _) (Int.natCast_nonneg _)
    omega

/-! ## A vendor with one professional -/

def onlyWorker : Worker := { id := 6, vendorId := 5, status := .active }

def ownRule : ProviderCapacityRule where
  providerId := 5
  professionalId := some 6
  maxJobsDaily := 4
  maxMinutesDaily := 300
  effectiveFrom := 0
  bounds := by decide

def vendorRule : ProviderCapacityRule where
  providerId := 5
  maxJobsDaily := 6
  maxMinutesDaily := 480
  effectiveFrom := 0
  bounds := by decide

def directoryOf (rules : List ProviderCapacityRule) : Directory where
  zones timezoneId := if timezoneId = "UTC" then some (Zone.fixed 0) else none
  capacityRules := rules

/-- A job from nine to ten, and a hold of the next hour. -/
def workday : Db where
  workers := ⟨[onlyWorker], by decide⟩
  jobs := ⟨[{
    id := 20, bookingId := 2, serviceId := 3, addressId := 4, status := .assigned
    scheduledStart := ofMinutes 540, scheduledEnd := ofMinutes 600
    vendorId := some 5, workerId := some 6 }], by decide⟩
  holds := ⟨[{
    id := 41, serviceId := 3, addressId := 4, providerCandidateId := 5
    professionalCandidateId := 6, slotStartUtc := ofMinutes 600, slotEndUtc := ofMinutes 660
    timezoneId := "UTC", capacityMinutes := 60, status := .held, expiresAt := ofMinutes 30
    ownerFingerprintHash := "customer-session-2", idempotencyKey := "hold-2" }], by decide⟩

/-- The calendar adds the vendor's rule to that of the professional, the matcher takes the latter
only. -/
theorem twoRules_disagree :
    ¬ ∀ day ∈ capacityCalendar (directoryOf [ownRule, vendorRule]) workday 0 5 0 1,
      day.AgreesWith (limitOn (directoryOf [ownRule, vendorRule]) 5 onlyWorker day.date)
        (matcherUsage workday 0 6 (Zone.fixed 0) day.date) := by
  intro h
  have hday := h _ (List.mem_map.mpr ⟨0, by decide, rfl⟩)
  exact absurd hday.totalMinutes (by decide)

/-- With the rule of the professional alone, both count the job and the hold. -/
theorem ownRule_agrees :
    (capacityDay 0 [ownRule] workday.jobs.rows workday.holds.rows).AgreesWith
      (limitOn (directoryOf [ownRule]) 5 onlyWorker 0)
      (matcherUsage workday 0 6 (Zone.fixed 0) 0) := by
  have hday : capacityDay 0 [ownRule] workday.jobs.rows workday.holds.rows ∈
      capacityCalendar (directoryOf [ownRule]) workday 0 5 0 1 :=
    List.mem_map.mpr ⟨0, by decide, by decide⟩
  refine (calendar_agrees_iff (directoryOf [ownRule]) workday 0 5 onlyWorker (Zone.fixed 0) 0 1 _
    hday).mpr ⟨.inl ⟨ownRule, by decide, by decide⟩, ?_⟩
  exact { count := by decide +kernel, minutes := by decide +kernel }

end Breero.Workforce
