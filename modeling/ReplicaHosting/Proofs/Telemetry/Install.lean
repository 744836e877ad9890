import ReplicaHosting.Telemetry.Run

/-! What an installation says of those who came before it. The process remembers whether any
subscriber has been set and not which one, so an installation cannot tell a closure that is long
over from a global subscriber. It is right about all else. -/
namespace ReplicaHosting.Telemetry.Reporting

variable {p : Reporting} {log : List Answer} {e : InstallError} {attempts : List Attempt}

theorem install_of_installed (done : p.installed = true) :
    p.install = (some .alreadyInstalled, p) := by
  simp only [install, done, if_true]

theorem install_of_everSet (fresh : p.installed = false) (used : p.everSet = true) :
    p.install = (some .subscriberAlreadySet, p) := by
  simp only [install, fresh, used, Bool.false_eq_true, if_false, if_true]

theorem install_of_unused (fresh : p.installed = false) (unused : p.everSet = false)
    (free : p.global = none) :
    p.install = (none, { p with global := some (.own p.directives)
                                everSet := true
                                installed := true }) := by
  simp only [install, setGlobal, fresh, unused, free, Option.isSome_none, Bool.false_eq_true,
    if_false]

theorem setGlobal_of_taken (s : Subscriber) (taken : p.global.isSome = true) :
    p.setGlobal s = (false, p) := by
  simp only [setGlobal, taken, if_true]

theorem setGlobal_of_free (s : Subscriber) (free : p.global = none) :
    p.setGlobal s = (true, { p with global := some s, everSet := true }) := by
  simp only [setGlobal, free, Option.isSome_none, Bool.false_eq_true, if_false]

/-- What a process knows is what its callers have been told: who has got the one place, if anybody,
and whether any subscriber was set at all. -/
structure Recalls (p : Reporting) (log : List Answer) : Prop where
  installed : p.installed = true ↔ .installed none ∈ log
  taken : p.global.isSome = true ↔ .installed none ∈ log ∨ .foreign true ∈ log
  used : p.everSet = true ↔ p.global.isSome = true ∨ .scoped ∈ log
  one : .installed none ∈ log → .foreign true ∉ log

theorem Recalls.free_iff (h : Recalls p log) :
    p.global = none ↔ .installed none ∉ log ∧ .foreign true ∉ log := by
  rw [← not_or, ← h.taken]
  simp

theorem Recalls.free_of_unused (h : Recalls p log) (unused : p.everSet = false) :
    p.global = none := by
  simpa using mt Or.inl (mt h.used.mpr (by simp [unused]))

theorem recalls_initial (filter : Option String) : Recalls { filter } [] := by
  constructor <;> simp

theorem Recalls.append_of_refused (h : Recalls p log) {x : Answer} (first : x ≠ .installed none)
    (other : x ≠ .foreign true) (closure : x ≠ .scoped) : Recalls p (log ++ [x]) := by
  have same {y : Answer} (ne : x ≠ y) : y ∈ log ++ [x] ↔ y ∈ log := by
    simp [Ne.symm ne]
  constructor
  · rw [same first]
    exact h.installed
  · rw [same first, same other]
    exact h.taken
  · rw [same closure]
    exact h.used
  · rw [same first, same other]
    exact h.one

theorem Recalls.install (h : Recalls p log) :
    Recalls p.install.2 (log ++ [.installed p.install.1]) := by
  cases done : p.installed with
  | true =>
    rw [install_of_installed done]
    exact h.append_of_refused nofun nofun nofun
  | false =>
    cases used : p.everSet with
    | true =>
      rw [install_of_everSet done used]
      exact h.append_of_refused nofun nofun nofun
    | false =>
      have free := h.free_of_unused used
      obtain ⟨-, other⟩ := h.free_iff.mp free
      rw [install_of_unused done used free]
      constructor
      · simp
      · simp
      · simp
      · simp [other]

theorem Recalls.setGlobal (h : Recalls p log) (s : Subscriber) :
    Recalls (p.setGlobal s).2 (log ++ [.foreign (p.setGlobal s).1]) := by
  cases free : p.global with
  | some t =>
    rw [setGlobal_of_taken s (by rw [free]; rfl)]
    exact h.append_of_refused nofun nofun nofun
  | none =>
    obtain ⟨unknown, -⟩ := h.free_iff.mp free
    rw [setGlobal_of_free s free]
    constructor
    · simp [h.installed]
    · simp
    · simp
    · simp [unknown]

theorem Recalls.runScoped (h : Recalls p log) : Recalls p.runScoped (log ++ [.scoped]) := by
  constructor
  · simpa [Reporting.runScoped] using h.installed
  · simpa [Reporting.runScoped] using h.taken
  · simp [Reporting.runScoped]
  · simpa using h.one

theorem Recalls.after (h : Recalls p log) (x : Attempt) :
    Recalls (p.after x) (log ++ [p.reply x]) := by
  cases x with
  | install => exact h.install
  | offer s => exact h.setGlobal s
  | «scoped» => exact h.runScoped

theorem Recalls.afterAll (h : Recalls p log) (attempts : List Attempt) :
    Recalls (p.afterAll attempts) (log ++ p.replies attempts) := by
  induction attempts generalizing p log with
  | nil =>
    rw [replies, List.append_nil]
    exact h
  | cons x later ih =>
    have rest := ih (h.after x)
    rw [List.append_assoc] at rest
    exact rest

theorem recalls_afterAll (filter : Option String) (attempts : List Attempt) :
    Recalls (afterAll { filter } attempts) (replies { filter } attempts) :=
  (recalls_initial filter).afterAll attempts

/-! ## Requests as attempts -/

theorem after_attempt (p : Reporting) (x : Request) : p.after x.attempt = p.step x := by
  cases x <;> rfl

theorem reply_attempt (p : Reporting) (x : Request) : p.reply x.attempt = p.answer x := by
  cases x <;> rfl

theorem afterAll_attempts (p : Reporting) (requests : List Request) :
    p.afterAll (requests.map Request.attempt) = p.run requests := by
  simp only [Reporting.afterAll, run, List.foldl_map, after_attempt]

theorem replies_attempts (p : Reporting) (requests : List Request) :
    p.replies (requests.map Request.attempt) = p.answers requests := by
  induction requests generalizing p with
  | nil => rfl
  | cons x later ih => rw [List.map_cons, replies, answers, reply_attempt, after_attempt, ih]

theorem recalls_run (filter : Option String) (requests : List Request) :
    Recalls (run { filter } requests) (answers { filter } requests) := by
  rw [← afterAll_attempts, ← replies_attempts]
  exact recalls_afterAll filter _

theorem scoped_mem_answers (p : Reporting) (requests : List Request) :
    .scoped ∈ p.answers requests ↔ .scoped ∈ requests := by
  induction requests generalizing p with
  | nil => simp [answers]
  | cons x later ih => cases x <;> simp [answers, answer, ih]

theorem Recalls.install_of_free (h : Recalls p log) (free : p.global = none) :
    p.install.1 = if .scoped ∈ log then some .subscriberAlreadySet else none := by
  obtain ⟨unknown, -⟩ := h.free_iff.mp free
  have done : p.installed = false := by simpa using mt h.installed.mp unknown
  by_cases closure : .scoped ∈ log
  · rw [install_of_everSet done (h.used.mpr (.inr closure)), if_pos closure]
  · have unused : p.everSet = false := by simpa [free, closure] using h.used
    rw [install_of_unused done unused free, if_neg closure]

theorem Recalls.install_of_taken (h : Recalls p log) (taken : p.global ≠ none) :
    p.install.1 =
      some (if .installed none ∈ log then .alreadyInstalled else .subscriberAlreadySet) := by
  by_cases own : .installed none ∈ log
  · rw [install_of_installed (h.installed.mpr own), if_pos own]
  · have done : p.installed = false := by simpa using mt h.installed.mp own
    have used := h.used.mpr (.inl (Option.isSome_iff_ne_none.mpr taken))
    rw [install_of_everSet done used, if_neg own]

theorem Recalls.install_eq_none_iff (h : Recalls p log) :
    p.install.1 = none ↔ p.global = none ∧ .scoped ∉ log := by
  by_cases free : p.global = none
  · simp [h.install_of_free free, free]
  · simp [h.install_of_taken free, free]

theorem Recalls.alreadyInstalled_iff (h : Recalls p log) :
    p.install.1 = some .alreadyInstalled ↔ .installed none ∈ log := by
  by_cases free : p.global = none
  · obtain ⟨unknown, -⟩ := h.free_iff.mp free
    rw [h.install_of_free free]
    split <;> simp [unknown]
  · simp [h.install_of_taken free]

theorem Recalls.subscriberAlreadySet_iff (h : Recalls p log) :
    p.install.1 = some .subscriberAlreadySet ↔
      .foreign true ∈ log ∨ p.global = none ∧ .scoped ∈ log := by
  by_cases free : p.global = none
  · obtain ⟨-, other⟩ := h.free_iff.mp free
    simp [h.install_of_free free, free, other]
  · -- the place has been given away once, so it is one of the two who has it
    have who := h.taken.mp (Option.isSome_iff_ne_none.mpr free)
    rw [h.install_of_taken free]
    by_cases own : .installed none ∈ log
    · simp [own, h.one own, free]
    · simp [own, who.resolve_left own]

/-- The next installation goes through as long as the one place is free, and otherwise tells who has
got it. -/
structure Truthful (p : Reporting) (log : List Answer) : Prop where
  free : p.install.1 = none ↔ p.global = none
  own : p.install.1 = some .alreadyInstalled ↔ .installed none ∈ log
  foreign : p.install.1 = some .subscriberAlreadySet ↔ .foreign true ∈ log

theorem Recalls.truthful_iff (h : Recalls p log) :
    Truthful p log ↔ (p.global = none → .scoped ∉ log) := by
  constructor
  · intro truthful free
    exact (h.install_eq_none_iff.mp (truthful.free.mpr free)).2
  · intro unheard
    refine ⟨?_, h.alreadyInstalled_iff, ?_⟩
    · rw [h.install_eq_none_iff]
      exact and_iff_left_of_imp unheard
    · rw [h.subscriberAlreadySet_iff]
      exact or_iff_left fun closure => unheard closure.1 closure.2

/-! ## What an installation fails for -/

theorem exists_reply {a : Answer} (mem : a ∈ p.replies attempts) :
    ∃ before x later, attempts = before ++ x :: later ∧ (p.afterAll before).reply x = a := by
  induction attempts generalizing p with
  | nil => cases mem
  | cons x later ih =>
    rcases List.mem_cons.mp mem with rfl | mem
    · exact ⟨[], x, later, rfl, rfl⟩
    · obtain ⟨before, y, rest, rfl, said⟩ := ih mem
      exact ⟨x :: before, y, rest, rfl, said⟩

/-- What an installation fails for, and will always fail for. -/
inductive AlwaysFailsFor (p : Reporting) : InstallError → Prop where
  | own (done : p.installed = true) : AlwaysFailsFor p .alreadyInstalled
  | other (fresh : p.installed = false) (used : p.everSet = true) :
    AlwaysFailsFor p .subscriberAlreadySet

theorem AlwaysFailsFor.install (h : AlwaysFailsFor p e) : p.install = (some e, p) := by
  cases h with
  | own done => exact install_of_installed done
  | other fresh used => exact install_of_everSet fresh used

theorem AlwaysFailsFor.after (h : AlwaysFailsFor p e) (x : Attempt) :
    AlwaysFailsFor (p.after x) e := by
  cases x with
  | install =>
    rw [Reporting.after, h.install]
    exact h
  | offer s =>
    cases free : p.global with
    | some t =>
      rw [Reporting.after, setGlobal_of_taken s (by rw [free]; rfl)]
      exact h
    | none =>
      rw [Reporting.after, setGlobal_of_free s free]
      cases h with
      | own done => exact .own done
      | other fresh _ => exact .other fresh rfl
  | «scoped» =>
    cases h with
    | own done => exact .own done
    | other fresh _ => exact .other fresh rfl

theorem AlwaysFailsFor.afterAll (h : AlwaysFailsFor p e) (later : List Attempt) :
    AlwaysFailsFor (p.afterAll later) e := by
  induction later generalizing p with
  | nil => exact h
  | cons x later ih => exact ih (h.after x)

theorem exists_install {refusal : Option InstallError}
    (mem : .installed refusal ∈ p.replies attempts) :
    ∃ before later, attempts = before ++ .install :: later ∧
      (p.afterAll before).install.1 = refusal := by
  obtain ⟨before, x, later, rfl, said⟩ := exists_reply mem
  cases x with
  | install => exact ⟨before, later, rfl, Answer.installed.inj said⟩
  | offer s => cases said
  | «scoped» => cases said

theorem AlwaysFailsFor.eq_of_mem (h : AlwaysFailsFor p e) {refusal : Option InstallError}
    (mem : .installed refusal ∈ p.replies attempts) : refusal = some e := by
  obtain ⟨before, later, rfl, rfl⟩ := exists_install mem
  rw [(h.afterAll before).install]

theorem Recalls.alwaysFailsFor (h : Recalls p log) (failed : p.install.1 = some e) :
    AlwaysFailsFor p e := by
  cases done : p.installed with
  | true =>
    rw [install_of_installed done] at failed
    cases failed
    exact .own done
  | false =>
    cases used : p.everSet with
    | true =>
      rw [install_of_everSet done used] at failed
      cases failed
      exact .other done used
    | false =>
      rw [install_of_unused done used (h.free_of_unused used)] at failed
      cases failed

theorem Recalls.install_ne_refused (h : Recalls p log) : p.install.1 ≠ some .refused := by
  intro failed
  cases h.alwaysFailsFor failed

/-! ## What it says of the global subscriber -/

/-- A process in which a closure has run before anybody took the place. -/
structure UsedButFree (p : Reporting) : Prop where
  installed : p.installed = false
  used : p.everSet = true
  free : p.global = none

theorem UsedButFree.step (h : UsedButFree p) {x : Request} (own : x ≠ .foreign) :
    UsedButFree (p.step x) := by
  cases x with
  | foreign => exact absurd rfl own
  | install =>
    rw [Reporting.step, install_of_everSet h.installed h.used]
    exact h
  | «scoped» => exact ⟨h.installed, rfl, h.free⟩

theorem UsedButFree.stays (h : UsedButFree p) {later : List Request} (alone : .foreign ∉ later) :
    UsedButFree (p.run later) := by
  induction later generalizing p with
  | nil => exact h
  | cons x later ih =>
    obtain ⟨own, rest⟩ := List.ne_and_not_mem_of_not_mem_cons alone
    exact ih (h.step own.symm) rest

theorem UsedButFree.run (h : UsedButFree p) {later : List Request} (alone : .foreign ∉ later) :
    UsedButFree (p.run later) ∧
      ∀ refusal, .installed refusal ∈ p.answers later →
        refusal = some .subscriberAlreadySet := by
  have shut : AlwaysFailsFor p .subscriberAlreadySet := .other h.installed h.used
  refine ⟨h.stays alone, ?_⟩
  intro refusal mem
  rw [← replies_attempts] at mem
  exact shut.eq_of_mem mem

/-- Whatever has been requested before, an installation fails for no third reason, and it says that
it has been done before exactly if it has. It is right about a place that is taken, and about a free
one as long as no closure has run. Otherwise it speaks of a global subscriber that is not there, and
will go on so for as long as there is none. -/
theorem install_blames (filter : Option String) (before : List Request) :
    let p := run { filter } before
    let log := answers { filter } before
    p.install.1 ≠ some .refused ∧
    (p.install.1 = none ↔ p.global = none ∧ .scoped ∉ before) ∧
    (p.install.1 = some .alreadyInstalled ↔ .installed none ∈ log) ∧
    (p.install.1 = some .subscriberAlreadySet ↔
      .foreign true ∈ log ∨ p.global = none ∧ .scoped ∈ before) ∧
    (p.global = none ↔ .installed none ∉ log ∧ .foreign true ∉ log) ∧
    (Truthful p log ↔ (p.global = none → .scoped ∉ before)) ∧
    (p.global = none → .scoped ∈ before → ∀ later, .foreign ∉ later →
      (p.run later).global = none ∧
      ∀ refusal, .installed refusal ∈ p.answers later →
        refusal = some .subscriberAlreadySet) := by
  intro p log
  have recalls : Recalls p log := recalls_run filter before
  have closures : .scoped ∈ log ↔ .scoped ∈ before := scoped_mem_answers _ before
  rw [← closures]
  refine ⟨recalls.install_ne_refused, recalls.install_eq_none_iff, recalls.alreadyInstalled_iff,
    recalls.subscriberAlreadySet_iff, recalls.free_iff, recalls.truthful_iff, ?_⟩
  intro free closure later alone
  obtain ⟨unknown, -⟩ := recalls.free_iff.mp free
  have usedButFree : UsedButFree p :=
    ⟨by simpa using mt recalls.installed.mp unknown, recalls.used.mpr (.inr closure), free⟩
  obtain ⟨stays, refused⟩ := usedButFree.run alone
  exact ⟨stays.free, refused⟩

theorem install_blames_scoped_closure :
    let p := run {} [.scoped]
    p.global = none ∧ p.install.1 = some .subscriberAlreadySet ∧
    (p.run [.install, .scoped, .install]).global = none ∧
    .installed (some .subscriberAlreadySet) ∈ p.answers [.install, .scoped, .install] := by
  intro p
  obtain ⟨-, -, -, occupied, -, -, lasting⟩ := install_blames none [.scoped]
  have refused := occupied.mpr (.inr ⟨rfl, by decide⟩)
  obtain ⟨free, -⟩ := lasting rfl (by decide) [.install, .scoped, .install] (by decide)
  exact ⟨rfl, refused, free, by decide⟩

/-- One closure is enough: nobody has got the place, and yet an installation fails. -/
theorem install_fails_after_closure :
    ¬ ∀ filter before, Truthful (run { filter } before) (answers { filter } before) := by
  intro truthful
  have passes := (truthful none [.scoped]).free.mpr rfl
  exact absurd passes (by decide)

end ReplicaHosting.Telemetry.Reporting
