import Nightgate.Submission.SponsorLanes

/-!
# When the sponsor lanes are exclusive
-/

namespace Nightgate.Submission

open Library Midnight

namespace SponsorHall

variable {inspect : Midnight.Thrown → String} {settings : SponsorSettings}

/-- What one step of a job does to the lanes. -/
inductive LaneEffect (hall : SponsorHall) (id : Nat) (job : FinalizedSponsoring) :
    SponsorHall → Prop where
  | idle : LaneEffect hall id job hall
  | keeps (next : FinalizedSponsoring) (sameLane : next.stage.lane = job.stage.lane)
      (sameAcquired : next.acquired = job.acquired)
      (sameReleased : next.released = job.released) : LaneEffect hall id job (hall.put id next)
  | takes (next : FinalizedSponsoring) (lane : String) (lanes : SponsorLanes)
      (unheld : job.stage.lane = none) (unused : (hall.lanes lane).busy = false)
      (isLane : next.stage.lane = some lane)
      (busyAfter : ∀ other, (lanes other).busy = if other = lane then true
        else (hall.lanes other).busy)
      (oneMore : next.acquired = job.acquired + 1) (sameReleased : next.released = job.released) :
      LaneEffect hall id job ({ hall with lanes }.put id next)
  | givesBack (next : FinalizedSponsoring) (lane : String) (lanes : SponsorLanes)
      (isLane : job.stage.lane = some lane) (unheld : next.stage.lane = none)
      (busyAfter : ∀ other, (lanes other).busy = if other = lane then false
        else (hall.lanes other).busy)
      (sameAcquired : next.acquired = job.acquired) (oneMore : next.released = job.released + 1) :
      LaneEffect hall id job ({ hall with lanes }.put id next)

theorem busy_update (lanes : SponsorLanes) (lane : String) (next : SponsorLane) (other : String) :
    (Function.update lanes lane next other).busy =
      if other = lane then next.busy else (lanes other).busy := by
  by_cases same : other = lane
  · rw [if_pos same, same, Function.update_self]
  · rw [if_neg same, Function.update_of_ne same]

variable {job : FinalizedSponsoring} {lane : String}

theorem stopAt_effect (hall : SponsorHall) (id : Nat) (isLane : job.stage.lane = some lane) :
    LaneEffect hall id job (hall.stopAt id job lane) :=
  .givesBack _ lane _ isLane rfl (busy_update hall.lanes lane _) rfl rfl

theorem afterClosing_effect (hall : SponsorHall) (id attempt : Nat)
    (verdict : SponsorVerdict) (isLane : job.stage.lane = some lane) :
    LaneEffect hall id job (hall.afterClosing settings id job lane attempt verdict) := by
  simp only [afterClosing]
  split
  · exact stopAt_effect hall id isLane
  · exact .keeps _ isLane.symm rfl rfl
  · refine .givesBack _ lane _ isLane ?_ (busy_update hall.lanes lane _) rfl rfl
    split <;> rfl

theorem stepOf_effect (hall : SponsorHall) (id : Nat) (event : HallEvent)
    (written : ∀ other err, event = .recordFails other err →
      ∀ lane attempt, job.stage ≠ .recording lane attempt) :
    LaneEffect hall id job (hall.stepOf inspect settings id job event) := by
  cases event with
  | tick span | begin other candidates | unboundBenches lane | unboundTouches lane => exact .idle
  | poll other atGate =>
    simp only [stepOf]
    split
    next limit isStage =>
      split
      next lane lanes taken =>
        obtain ⟨picked, isPicked, same⟩ := Option.map_eq_some_iff.mp taken
        cases same
        have free := (pickFreeSponsor_free isPicked).2
        simp only [SponsorLanes.free, Bool.and_eq_true, Bool.not_eq_true'] at free
        exact .takes _ lane _ (by rw [isStage]; rfl) free.1 rfl
          (busy_update hall.lanes lane _) rfl rfl
      · split
        · exact .keeps _ (by rw [isStage]; rfl) rfl rfl
        · exact .idle
    · exact .idle
  | lands other =>
    simp only [stepOf]
    split
    next lane attempt isStage =>
      exact .givesBack _ lane _ (by rw [isStage]; rfl) rfl (busy_update hall.lanes lane _) rfl rfl
    · exact .idle
  | attemptFails other err =>
    simp only [stepOf]
    split
    next lane attempt isStage =>
      have isLane : job.stage.lane = some lane := by rw [isStage]; rfl
      simp only [catchFailure]
      split
      · exact stopAt_effect hall id isLane
      · exact .keeps _ isLane.symm rfl rfl
    · exact .idle
  | recorded other =>
    simp only [stepOf]
    split
    next lane attempt isStage => exact .keeps _ (by rw [isStage]; rfl) rfl rfl
    · exact .idle
  | recordFails other err =>
    simp only [stepOf]
    split
    next lane attempt isStage => exact absurd isStage (written other err rfl lane attempt)
    · exact .idle
  | closed other committed =>
    simp only [stepOf]
    split
    next lane attempt verdict isStage =>
      have isLane : job.stage.lane = some lane := by rw [isStage]; rfl
      split
      · exact afterClosing_effect hall id attempt verdict isLane
      · exact stopAt_effect hall id isLane
    · exact .idle
  | resume other =>
    simp only [stepOf]
    split
    next lane attempt isStage => exact .keeps _ (by rw [isStage]; rfl) rfl rfl
    · exact .idle

variable {id : Nat}

/-- A step of a job is its own, or nothing when there is no such job. -/
theorem step_eq_stepOf (hall : SponsorHall) {event : HallEvent}
    (isId : event.id = some id) : hall.step inspect settings event =
      match hall.jobs id with
      | some job => hall.stepOf inspect settings id job event
      | none => hall := by
  cases event with
  | tick span | begin other candidates | unboundBenches lane | unboundTouches lane => cases isId
  | poll other atGate | lands other | attemptFails other err | recorded other
  | recordFails other err | closed other committed | resume other =>
    cases isId
    rfl

/-! ## The lanes stay exclusive -/

theorem Exclusive.initial : Exclusive SponsorHall.initial where
  single := by simp [Holds, SponsorHall.initial]
  busy := by simp [Holds, SponsorHall.initial]
  balanced := by simp [SponsorHall.initial]

variable {hall : SponsorHall} {next : FinalizedSponsoring}

/-- Who holds a lane after a job was written. -/
theorem holds_put {id other : Nat} : (hall.put id next).Holds other lane ↔
      (other = id ∧ next.stage.lane = some lane) ∨ (other ≠ id ∧ hall.Holds other lane) := by
  constructor
  · intro holds
    obtain ⟨job, isJob, isLane⟩ := holds
    rcases mem_update isJob with ⟨same, isNew⟩ | ⟨elsewhere, before⟩
    · cases isNew
      exact Or.inl ⟨same, isLane⟩
    · exact Or.inr ⟨elsewhere, job, before, isLane⟩
  · intro either
    rcases either with ⟨rfl, isLane⟩ | ⟨elsewhere, job, isJob, isLane⟩
    · exact ⟨next, Function.update_self .., isLane⟩
    · exact ⟨job, (Function.update_of_ne elsewhere ..).trans isJob, isLane⟩

theorem balanced_put (before : ∀ id, ∀ job ∈ hall.jobs id,
      job.acquired = job.released + if job.stage.lane.isSome then 1 else 0)
    (isBalanced : next.acquired = next.released + if next.stage.lane.isSome then 1 else 0) :
    ∀ other, ∀ job ∈ (hall.put id next).jobs other,
      job.acquired = job.released + if job.stage.lane.isSome then 1 else 0 := by
  intro other job isJob
  rcases mem_update isJob with ⟨_, isNew⟩ | ⟨_, isOld⟩
  · cases isNew
    exact isBalanced
  · exact before other job isOld

variable {job next : FinalizedSponsoring}

theorem Exclusive.keeps (exclusive : hall.Exclusive) (isJob : job ∈ hall.jobs id)
    (sameLane : next.stage.lane = job.stage.lane) (sameAcquired : next.acquired = job.acquired)
    (sameReleased : next.released = job.released) : (hall.put id next).Exclusive := by
  have asBefore : ∀ other lane, (hall.put id next).Holds other lane ↔ hall.Holds other lane := by
    intro other lane
    rw [holds_put]
    constructor
    · intro either
      rcases either with ⟨rfl, isLane⟩ | ⟨_, holds⟩
      · exact ⟨job, isJob, sameLane ▸ isLane⟩
      · exact holds
    · intro holds
      by_cases same : other = id
      · subst same
        obtain ⟨again, isAgain, isLane⟩ := holds
        rw [Option.mem_def.mp isJob] at isAgain
        cases isAgain
        exact Or.inl ⟨rfl, sameLane ▸ isLane⟩
      · exact Or.inr ⟨same, holds⟩
  have balanced := exclusive.balanced id job isJob
  rw [← sameLane, ← sameAcquired, ← sameReleased] at balanced
  exact {
    single := fun first second lane isFirst isSecond =>
      exclusive.single first second lane ((asBefore first lane).mp isFirst)
        ((asBefore second lane).mp isSecond)
    busy := fun lane => by
      simp only [asBefore]
      exact exclusive.busy lane
    balanced := balanced_put exclusive.balanced balanced }

theorem Exclusive.takes (exclusive : hall.Exclusive)
    (isJob : job ∈ hall.jobs id)
    {lanes : SponsorLanes} (unheld : job.stage.lane = none)
    (unused : (hall.lanes lane).busy = false) (isLane : next.stage.lane = some lane)
    (busyAfter : ∀ other, (lanes other).busy = if other = lane then true
      else (hall.lanes other).busy)
    (oneMore : next.acquired = job.acquired + 1) (sameReleased : next.released = job.released) :
    ({ hall with lanes }.put id next).Exclusive := by
  have nobody : ∀ other, ¬ hall.Holds other lane := by
    intro other holds
    rw [(exclusive.busy lane).mpr ⟨other, holds⟩] at unused
    cases unused
  have notBefore : ∀ other, ¬ hall.Holds id other := by
    intro other holds
    obtain ⟨again, isAgain, isOther⟩ := holds
    rw [Option.mem_def.mp isJob] at isAgain
    cases isAgain
    rw [unheld] at isOther
    cases isOther
  have holders : ∀ other taken, ({ hall with lanes }.put id next).Holds other taken ↔
      (other = id ∧ taken = lane) ∨ hall.Holds other taken := by
    intro other taken
    rw [holds_put, isLane, Option.some.injEq]
    constructor
    · intro either
      exact either.imp (fun own => ⟨own.1, own.2.symm⟩) And.right
    · intro either
      refine either.imp (fun own => ⟨own.1, own.2.symm⟩) fun holds => ⟨?_, holds⟩
      rintro rfl
      exact notBefore taken holds
  exact {
    single := by
      intro first second taken isFirst isSecond
      rcases (holders first taken).mp isFirst with ⟨rfl, rfl⟩ | firstHeld
      · rcases (holders second taken).mp isSecond with ⟨rfl, _⟩ | secondHeld
        · rfl
        · exact absurd secondHeld (nobody second)
      · rcases (holders second taken).mp isSecond with ⟨rfl, rfl⟩ | secondHeld
        · exact absurd firstHeld (nobody first)
        · exact exclusive.single first second taken firstHeld secondHeld
    busy := by
      intro taken
      simp only [holders]
      refine (Eq.congr_left (busyAfter taken)).trans ?_
      split
      next same => exact ⟨fun _ => ⟨id, Or.inl ⟨rfl, same⟩⟩, fun _ => rfl⟩
      next different =>
        rw [exclusive.busy taken]
        constructor
        · intro held
          obtain ⟨other, holds⟩ := held
          exact ⟨other, Or.inr holds⟩
        · intro held
          obtain ⟨other, own | holds⟩ := held
          · exact absurd own.2 different
          · exact ⟨other, holds⟩
    balanced := by
      apply balanced_put exclusive.balanced
      have before := exclusive.balanced id job isJob
      rw [unheld] at before
      rw [isLane, oneMore, sameReleased, before]
      rfl }

theorem Exclusive.givesBack (exclusive : hall.Exclusive)
    (isJob : job ∈ hall.jobs id)
    {lanes : SponsorLanes} (isLane : job.stage.lane = some lane)
    (unheld : next.stage.lane = none)
    (busyAfter : ∀ other, (lanes other).busy = if other = lane then false
      else (hall.lanes other).busy)
    (sameAcquired : next.acquired = job.acquired) (oneMore : next.released = job.released + 1) :
    ({ hall with lanes }.put id next).Exclusive := by
  have held : hall.Holds id lane := ⟨job, isJob, isLane⟩
  have onlyLane : ∀ other, hall.Holds id other → other = lane := by
    intro other holds
    obtain ⟨again, isAgain, isOther⟩ := holds
    rw [Option.mem_def.mp isJob] at isAgain
    cases isAgain
    rw [isLane, Option.some.injEq] at isOther
    exact isOther.symm
  have holders : ∀ other kept, ({ hall with lanes }.put id next).Holds other kept ↔
      other ≠ id ∧ hall.Holds other kept := by
    intro other kept
    rw [holds_put, unheld]
    simp only [reduceCtorEq, and_false, false_or]
    rfl
  exact {
    single := fun first second kept isFirst isSecond =>
      exclusive.single first second kept ((holders first kept).mp isFirst).2
        ((holders second kept).mp isSecond).2
    busy := by
      intro kept
      simp only [holders]
      refine (Eq.congr_left (busyAfter kept)).trans ?_
      split
      next same =>
        subst same
        refine ⟨nofun, ?_⟩
        intro stillHeld
        obtain ⟨other, different, holds⟩ := stillHeld
        exact absurd (exclusive.single other id kept holds held) different
      next different =>
        rw [exclusive.busy kept]
        constructor
        · intro isHeld
          obtain ⟨other, holds⟩ := isHeld
          refine ⟨other, ?_, holds⟩
          rintro rfl
          exact different (onlyLane kept holds)
        · intro isHeld
          obtain ⟨other, _, holds⟩ := isHeld
          exact ⟨other, holds⟩
    balanced := by
      apply balanced_put exclusive.balanced
      have before := exclusive.balanced id job isJob
      rw [isLane] at before
      rw [unheld, sameAcquired, oneMore, before]
      rfl }

theorem Exclusive.effect {hall next : SponsorHall} (exclusive : hall.Exclusive)
    (isJob : job ∈ hall.jobs id) (effect : LaneEffect hall id job next) : next.Exclusive := by
  cases effect with
  | idle => exact exclusive
  | keeps next sameLane sameAcquired sameReleased =>
    exact exclusive.keeps isJob sameLane sameAcquired sameReleased
  | takes next lane lanes unheld unused isLane busyAfter oneMore sameReleased =>
    exact exclusive.takes isJob unheld unused isLane busyAfter oneMore sameReleased
  | givesBack next lane lanes isLane unheld busyAfter sameAcquired oneMore =>
    exact exclusive.givesBack isJob isLane unheld busyAfter sameAcquired oneMore

section Exclusive

variable (exclusive : hall.Exclusive)

include exclusive

theorem Exclusive.begins
    (absent : hall.jobs id = none) (unheld : next.stage.lane = none)
    (isBalanced : next.acquired = next.released) : (hall.put id next).Exclusive := by
  have holders : ∀ other lane, (hall.put id next).Holds other lane ↔ hall.Holds other lane := by
    intro other lane
    rw [holds_put, unheld]
    simp only [reduceCtorEq, and_false, false_or, and_iff_right_iff_imp]
    rintro ⟨job, isJob, _⟩ rfl
    rw [Option.mem_def, absent] at isJob
    cases isJob
  exact {
    single := fun first second lane isFirst isSecond =>
      exclusive.single first second lane ((holders first lane).mp isFirst)
        ((holders second lane).mp isSecond)
    busy := fun lane => by
      simp only [holders]
      exact exclusive.busy lane
    balanced := balanced_put exclusive.balanced (by rw [unheld, isBalanced]; rfl) }

/-- A change of the lanes alone that leaves which are busy. -/
theorem Exclusive.relanes
    {lanes : SponsorLanes} (sameBusy : ∀ lane, (lanes lane).busy = (hall.lanes lane).busy) :
    Exclusive { hall with lanes } where
  single := exclusive.single
  busy := fun lane => by
    rw [sameBusy lane]
    exact exclusive.busy lane
  balanced := exclusive.balanced

theorem Exclusive.step (event : HallEvent)
    (undisturbed : hall.Undisturbed event) :
    (hall.step inspect settings event).Exclusive := by
  cases isId : event.id with
  | some id =>
    rw [step_eq_stepOf hall isId]
    cases isJob : hall.jobs id with
    | none => exact exclusive
    | some job =>
      refine exclusive.effect isJob (stepOf_effect hall id event ?_)
      rintro other err rfl
      cases isId
      exact undisturbed job isJob
  | none =>
    cases event with
    | tick span => exact ⟨exclusive.single, exclusive.busy, exclusive.balanced⟩
    | begin id candidates =>
      simp only [SponsorHall.step]
      split
      · exact exclusive
      next absent =>
        refine exclusive.begins absent ?_ rfl
        split <;> rfl
    | unboundBenches lane =>
      refine exclusive.relanes fun other => (busy_update hall.lanes lane _ other).trans ?_
      split
      next same => exact same ▸ undisturbed.symm
      · rfl
    | unboundTouches lane =>
      refine exclusive.relanes fun other => (busy_update hall.lanes lane _ other).trans ?_
      split
      next same => rw [same]
      · rfl
    | poll other atGate | lands other | attemptFails other err | recorded other
    | recordFails other err | closed other committed | resume other => cases isId

/-- A job that tries again after its lane was given back, or gives it back again, is out of
balance. -/
theorem recordFails_breaks (isJob : job ∈ hall.jobs id) {attempt : Nat}
    (isStage : job.stage = .recording lane attempt) (err : Midnight.Thrown) :
    ¬ (hall.step inspect settings (.recordFails id err)).Exclusive := by
  intro after
  have before := exclusive.balanced id job isJob
  rw [isStage] at before
  rw [step_eq_stepOf hall rfl, Option.mem_def.mp isJob] at after
  simp only [stepOf, isStage, catchFailure] at after
  split at after
  · have balanced := after.balanced id _ (Function.update_self ..)
    simp only [FinalizedStage.lane, Option.isSome_none, Bool.false_eq_true,
      if_false] at balanced before
    omega
  · have balanced := after.balanced id _ (Function.update_self ..)
    simp only [FinalizedStage.lane, Option.isSome_none, Option.isSome_some, Bool.false_eq_true,
      if_true, if_false] at balanced before
    omega

theorem Undisturbed.of_exclusive {event : HallEvent}
    (after : (hall.step inspect settings event).Exclusive) :
    hall.Undisturbed event := by
  cases event with
  | recordFails id err =>
    intro job isJob lane attempt isStage
    exact recordFails_breaks exclusive isJob isStage err after
  | unboundBenches lane =>
    change (hall.lanes lane).busy = false
    by_contra isBusy
    rw [Bool.not_eq_false] at isBusy
    have stillHeld := (exclusive.busy lane).mp isBusy
    have stillBusy := (after.busy lane).mpr stillHeld
    simp only [step, benchSponsor, Function.update_self] at stillBusy
    cases stillBusy
  | tick span | begin id candidates | poll id atGate | lands id | attemptFails id err
  | recorded id | closed id committed | resume id | unboundTouches lane => trivial

end Exclusive

section Elsewhere

variable {hall : SponsorHall} {id other : Nat} {job : FinalizedSponsoring} {lane : String}
  {attempt : Nat}

section Different

variable (different : other ≠ id)

include different

theorem put_elsewhere : (hall.put id job).jobs other = hall.jobs other :=
  Function.update_of_ne different ..

theorem stopAt_elsewhere :
    (hall.stopAt id job lane).jobs other = hall.jobs other :=
  put_elsewhere different

theorem catchFailure_elsewhere (err : Midnight.Thrown) :
    (hall.catchFailure inspect id job lane attempt err).jobs other = hall.jobs other := by
  simp only [catchFailure]
  split
  · exact stopAt_elsewhere different
  · exact put_elsewhere different

theorem afterClosing_elsewhere (verdict : SponsorVerdict) :
    (hall.afterClosing settings id job lane attempt verdict).jobs other = hall.jobs other := by
  simp only [afterClosing]
  split
  · exact stopAt_elsewhere different
  · exact put_elsewhere different
  · exact put_elsewhere different

/-- A step of one job leaves the others as they are. -/
theorem stepOf_elsewhere (event : HallEvent) :
    (hall.stepOf inspect settings id job event).jobs other = hall.jobs other := by
  cases event with
  | tick span | begin first candidates | unboundBenches lane | unboundTouches lane => rfl
  | poll first atGate =>
    simp only [stepOf]
    split
    · split
      · exact put_elsewhere different
      · split
        · exact put_elsewhere different
        · rfl
    · rfl
  | lands first | recorded first | resume first =>
    simp only [stepOf]
    split
    · exact put_elsewhere different
    · rfl
  | attemptFails first err | recordFails first err =>
    simp only [stepOf]
    split
    · exact catchFailure_elsewhere different err
    · rfl
  | closed first committed =>
    simp only [stepOf]
    split
    · split
      · exact afterClosing_elsewhere different _
      · exact stopAt_elsewhere different
    · rfl

end Different

/-- A waiting job moves only by its own look at the pool. -/
theorem stepOf_waiting {limit : Nat} (isStage : job.stage = .waiting limit) (event : HallEvent)
    (notPoll : ∀ first atGate, event ≠ .poll first atGate) :
    hall.stepOf inspect settings id job event = hall := by
  cases event with
  | poll first atGate => exact absurd rfl (notPoll first atGate)
  | tick span | begin first candidates | unboundBenches lane | unboundTouches lane => rfl
  | lands first | attemptFails first err | recorded first | recordFails first err
  | closed first committed | resume first => simp only [stepOf, isStage]

end Elsewhere

theorem WaitersServed.of_exclusive (exclusive : hall.Exclusive) :
    hall.WaitersServed inspect settings where
  kept := by
    intro id limit event job isJob isStage notPoll
    cases isId : event.id with
    | some other =>
      rw [step_eq_stepOf hall isId]
      cases isOther : hall.jobs other with
      | none => exact isJob
      | some current =>
        by_cases same : id = other
        · subst same
          rw [Option.mem_def.mp isJob] at isOther
          cases isOther
          dsimp only
          rw [stepOf_waiting isStage event (fun first atGate isPoll => by
            subst isPoll
            cases isId
            exact notPoll atGate rfl)]
          exact isJob
        · exact (stepOf_elsewhere same event).trans isJob
    | none =>
      cases event with
      | tick span | unboundBenches lane | unboundTouches lane => exact isJob
      | begin other candidates =>
        simp only [SponsorHall.step]
        split
        · exact isJob
        next absent =>
          have different : id ≠ other := by
            rintro rfl
            rw [Option.mem_def.mp isJob] at absent
            cases absent
          exact (put_elsewhere different).trans isJob
      | poll other atGate | lands other | attemptFails other err | recorded other
      | recordFails other err | closed other committed | resume other => cases isId
  patient := by
    intro id limit atGate job isJob isStage early
    rw [step_eq_stepOf hall rfl, Option.mem_def.mp isJob]
    simp only [stepOf, isStage]
    split
    next lane lanes taken =>
      obtain ⟨picked, isPicked, same⟩ := Option.map_eq_some_iff.mp taken
      cases same
      exact Or.inr ⟨lane, (pickFreeSponsor_free isPicked).1, _, Function.update_self .., rfl⟩
    · rw [if_neg (Nat.not_le.mpr early)]
      exact Or.inl isJob
  served := by
    intro id limit lane atGate job isJob isStage isCandidate unheld unpaused
    have unused : (hall.lanes lane).busy = false := by
      by_contra isBusy
      rw [Bool.not_eq_false] at isBusy
      obtain ⟨other, holds⟩ := (exclusive.busy lane).mp isBusy
      exact unheld other holds
    have free : hall.lanes.free hall.now lane = true := by
      simp [SponsorLanes.free, unused, unpaused]
    have picks : (pickFreeSponsor hall.lanes job.candidates hall.now atGate).isSome :=
      pickFreeSponsor_isSome isCandidate free
    obtain ⟨taken, isTaken⟩ := Option.isSome_iff_exists.mp picks
    refine ⟨taken, (pickFreeSponsor_free isTaken).1, ?_⟩
    rw [step_eq_stepOf hall rfl, Option.mem_def.mp isJob]
    simp only [stepOf, isStage, acquireSponsor, isTaken, Option.map_some]
    exact ⟨_, Function.update_self .., rfl⟩

/-! ## Runs -/

/-- The lanes are exclusive and the waiters served in every state of a run exactly if no step of
it gives a lane back a second time. -/
theorem lanes_exclusive_iff (inspect : Midnight.Thrown → String) (settings : SponsorSettings)
    (events : List HallEvent) :
    Along (step inspect settings) Undisturbed initial events ↔ ∀ earlier, earlier <+: events →
        (run (step inspect settings) initial earlier).Exclusive ∧
          (run (step inspect settings) initial earlier).WaitersServed inspect settings := by
  have implied : ∀ hall : SponsorHall, hall.Exclusive →
      hall.Exclusive ∧ hall.WaitersServed inspect settings :=
    fun hall exclusive => ⟨exclusive, .of_exclusive exclusive⟩
  have keeps : ∀ (hall : SponsorHall) (event : HallEvent), hall.Exclusive →
      hall.Undisturbed event → (hall.step inspect settings event).Exclusive :=
    fun hall event exclusive undisturbed => exclusive.step event undisturbed
  have breaks : ∀ (hall : SponsorHall) (event : HallEvent), hall.Exclusive →
      ((hall.step inspect settings event).Exclusive ∧
        (hall.step inspect settings event).WaitersServed inspect settings) →
      hall.Undisturbed event :=
    fun hall event exclusive after => .of_exclusive exclusive after.1
  exact along_iff_law implied keeps breaks Exclusive.initial events

/-- The first job lands and gives its lane back, the second takes it; writing the first one's
grant fails, and the catch frees the lane under the second for the third. -/
def sharedLaneRun : List HallEvent :=
  let locked : Midnight.Thrown := { top := { message := some "database is locked" } }
  [.begin 1 ["a"], .begin 2 ["a"], .begin 3 ["a"], .poll 1 (fun _ => true), .lands 1,
    .poll 2 (fun _ => true), .recordFails 1 locked, .closed 1 true, .poll 3 (fun _ => true)]

theorem sharedLaneRun_jobs :
    let hall := run (step errorMessage ⟨1000, 1000, 4⟩) initial sharedLaneRun
    hall.jobs 1 = some ⟨["a"], 1000, .ended, 1, 2⟩ ∧
      hall.jobs 2 = some ⟨["a"], 1000, .attempting "a" 0, 1, 0⟩ ∧
      hall.jobs 3 = some ⟨["a"], 1000, .attempting "a" 0, 1, 0⟩ := by
  decide +kernel

/-- Two jobs hold one lane, and the first one gave its lane back twice. -/
theorem lane_shared_after_recordFails :
    let hall := run (step errorMessage ⟨1000, 1000, 4⟩) initial sharedLaneRun
    hall.Holds 2 "a" ∧ hall.Holds 3 "a" ∧
      (∃ job ∈ hall.jobs 1, job.acquired = 1 ∧ job.released = 2) ∧ ¬ hall.Exclusive := by
  obtain ⟨first, second, third⟩ := sharedLaneRun_jobs
  refine ⟨⟨_, second, rfl⟩, ⟨_, third, rfl⟩, ⟨_, first, rfl, rfl⟩, ?_⟩
  intro exclusive
  cases exclusive.single 2 3 "a" ⟨_, second, rfl⟩ ⟨_, third, rfl⟩

end SponsorHall

end Nightgate.Submission
