import ReplicaHosting.Proofs.Telemetry.Install

/-! The place of the global subscriber. The first who asks while it is free has got it for good,
whatever is tried afterwards. An installation that has failed once fails for the same reason ever
after. -/
namespace ReplicaHosting.Telemetry.Reporting

variable {p : Reporting} {log : List Answer} {e : InstallError} {attempts : List Attempt}

theorem afterAll_cons (p : Reporting) (x : Attempt) (later : List Attempt) :
    p.afterAll (x :: later) = (p.after x).afterAll later :=
  List.foldl_cons

theorem afterAll_append (p : Reporting) (before later : List Attempt) :
    p.afterAll (before ++ later) = (p.afterAll before).afterAll later :=
  List.foldl_append

/-! ## Who has got the place -/

/-- An attempt gets the place for the subscriber that it comes with, or it fails and leaves the
place alone. Nobody gets it who does not find it free. -/
inductive Decided (p : Reporting) (x : Attempt) : Prop where
  | won (success : (p.reply x).succeeded = true) (free : p.global = none)
      (held : (p.after x).global = p.offered x) (present : (p.offered x).isSome = true)
  | lost (failure : (p.reply x).succeeded = false) (same : (p.after x).global = p.global)

theorem decided_of_refused (refused : p.install = (some e, p)) : Decided p .install :=
  .lost (by rw [reply, refused]; rfl) (by rw [after, refused])

theorem decided (p : Reporting) (x : Attempt) : Decided p x := by
  cases x with
  | install =>
    cases done : p.installed with
    | true => exact decided_of_refused (install_of_installed done)
    | false =>
      cases used : p.everSet with
      | true => exact decided_of_refused (install_of_everSet done used)
      | false =>
        cases free : p.global with
        | none =>
          have accepted := install_of_unused done used free
          exact .won (by rw [reply, accepted]; rfl) free (by rw [after, accepted]; rfl) rfl
        | some t =>
          have taken : p.global.isSome = true := by rw [free]; rfl
          refine decided_of_refused (e := .refused) ?_
          simp only [install, done, used, setGlobal_of_taken _ taken, Bool.false_eq_true, if_false]
  | offer s =>
    cases free : p.global with
    | none =>
      have accepted := setGlobal_of_free s free
      exact .won (by rw [reply, accepted]; rfl) free (by rw [after, accepted]; rfl) rfl
    | some t =>
      have taken : p.global.isSome = true := by rw [free]; rfl
      have refused := setGlobal_of_taken s taken
      exact .lost (by rw [reply, refused]; rfl) (by rw [after, refused])
  | «scoped» => exact .lost rfl rfl

theorem global_after (taken : p.global ≠ none) (x : Attempt) : (p.after x).global = p.global := by
  cases p.decided x with
  | won _ free => exact absurd free taken
  | lost _ same => exact same

theorem global_afterAll (taken : p.global ≠ none) (later : List Attempt) :
    (p.afterAll later).global = p.global := by
  induction later generalizing p with
  | nil => rfl
  | cons x later ih =>
    have same := global_after taken x
    exact (ih (same ▸ taken)).trans same

theorem succeeded_of_taken (taken : p.global ≠ none) {a : Answer} (mem : a ∈ p.replies attempts) :
    a.succeeded = false := by
  obtain ⟨before, x, later, rfl, rfl⟩ := exists_reply mem
  have same := global_afterAll taken before
  cases (p.afterAll before).decided x with
  | won _ free => exact absurd (same ▸ free) taken
  | lost failure => exact failure

theorem countP_succeeded (p : Reporting) (attempts : List Attempt) :
    (p.afterAll attempts).global.isSome.toNat =
      p.global.isSome.toNat + (p.replies attempts).countP Answer.succeeded := by
  induction attempts generalizing p with
  | nil => rfl
  | cons x later ih =>
    rw [afterAll_cons, ih, replies, List.countP_cons]
    cases p.decided x with
    | won success free held present =>
      rw [held, present, free, success]
      simp [Nat.add_comm]
    | lost failure same =>
      rw [same, failure]
      simp

theorem levels_congr {q : Reporting} (same : p.global = q.global) (target : String) :
    p.levels target = q.levels target := by
  simp only [levels, same]

/-! ## For good -/

theorem alwaysFailsFor_of_mem {filter : Option String}
    (mem : .installed (some e) ∈ replies { filter } attempts) :
    AlwaysFailsFor (afterAll { filter } attempts) e := by
  obtain ⟨before, later, rfl, failed⟩ := exists_install mem
  have shut := (recalls_afterAll filter before).alwaysFailsFor failed
  rw [afterAll_append]
  exact shut.afterAll (.install :: later)

/-- Of all who ask for the place, at most one gets it, and the process keeps that subscriber and the
levels that it lets through. Installations that come after a failed one fail as it did, those after
a successful one fail as repeated, and none finds the place taken between the look and the move. -/
theorem winner_lasts (filter : Option String) (before later : List Attempt) :
    let p := afterAll { filter } before
    let log := replies { filter } before
    log.countP Answer.succeeded ≤ 1 ∧
    (p.global ≠ none ↔ log.countP Answer.succeeded = 1) ∧
    (∀ x, (p.reply x).succeeded = true → ((p.after x).afterAll later).global = p.offered x) ∧
    (.installed none ∈ log →
      (∀ refusal, .installed refusal ∈ p.replies later → refusal = some .alreadyInstalled) ∧
      .foreign true ∉ p.replies later) ∧
    (∀ e, .installed (some e) ∈ log →
      ∀ refusal, .installed refusal ∈ p.replies later → refusal = some e) ∧
    .installed (some .refused) ∉ log ∧
    (p.global ≠ none →
      (p.afterAll later).global = p.global ∧
      ∀ target, (p.afterAll later).levels target = p.levels target) := by
  intro p log
  have recalls : Recalls p log := recalls_afterAll filter before
  have count : p.global.isSome.toNat = log.countP Answer.succeeded := by
    simpa using countP_succeeded { filter } before
  refine ⟨?_, ?_, ?_, ?_, ?_, ?_, ?_⟩
  · rw [← count]
    exact Bool.toNat_le _
  · rw [← count, Bool.toNat_eq_one, Option.isSome_iff_ne_none]
  · intro x success
    cases p.decided x with
    | won _ _ held present =>
      rw [← held] at present ⊢
      exact global_afterAll (Option.isSome_iff_ne_none.mp present) later
    | lost failure => rw [failure] at success; cases success
  · intro own
    have taken := Option.isSome_iff_ne_none.mp (recalls.taken.mpr (.inl own))
    have shut : AlwaysFailsFor p .alreadyInstalled := .own (recalls.installed.mpr own)
    refine ⟨fun refusal mem => shut.eq_of_mem mem, ?_⟩
    intro accepted
    exact absurd (succeeded_of_taken taken accepted) (by decide)
  · intro e failed refusal mem
    exact (alwaysFailsFor_of_mem failed).eq_of_mem mem
  · intro failed
    cases alwaysFailsFor_of_mem failed
  · intro taken
    have same := global_afterAll taken later
    exact ⟨same, levels_congr same⟩

theorem winner_lasts_rivals :
    let rivals : List Attempt := [.scoped, .offer (.own [⟨none, Level.trace.rank, none⟩]), .install]
    let p := afterAll {} [.install, .offer .foreign, .install]
    ((after {} .install).afterAll rivals).global = some (.own [⟨none, Level.info.rank, none⟩]) ∧
    .foreign true ∉ p.replies rivals ∧
    (∀ refusal, .installed refusal ∈ p.replies rivals → refusal = some .alreadyInstalled) ∧
    (p.afterAll rivals).levels "resource_hosting" = [.error, .warn, .info] := by
  intro rivals p
  obtain ⟨-, -, first, -⟩ := winner_lasts none [] rivals
  obtain ⟨-, -, -, own, failed, -, taken⟩ :=
    winner_lasts none [.install, .offer .foreign, .install] rivals
  have held := first .install rfl
  have refused := (own (by decide)).2
  have repeated := failed .alreadyInstalled (by decide)
  have kept := (taken (by decide)).2 "resource_hosting"
  exact ⟨held, refused, repeated, kept.trans (by decide)⟩

end ReplicaHosting.Telemetry.Reporting
