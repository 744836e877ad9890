import ReplicaHosting.Proofs.Replica.Stopping
import ReplicaHosting.Proofs.Replica.Watching

/-! What a replica shows. A snapshot bears the URI of the descriptor without one tag and the types
of the descriptor for as long as it is there; all that changes in it are the attributes, and the
revision counts how often they have. Whoever has ended shows nothing, also if attributes are still
taken from the stream. -/
namespace ReplicaHosting

theorem cutEnd_eq_some_iff {tail s x : List Char} : cutEnd tail s = some x ↔ x ++ tail = s := by
  unfold cutEnd
  dsimp only
  constructor
  · intro h
    split at h
    · rename_i last
      cases h
      calc s.take (s.length - tail.length) ++ tail
          = s.take (s.length - tail.length) ++ s.drop (s.length - tail.length) := by rw [last]
        _ = s := List.take_append_drop _ s
    · cases h
  · rintro rfl
    simp

theorem replicaUri?_eq_some_iff {uri path : String} :
    replicaUri? uri = some path ↔ path ++ hostingTag = uri := by
  rw [← String.toList_inj, String.toList_append]
  unfold replicaUri?
  constructor
  · intro h
    obtain ⟨x, cut, rfl⟩ := Option.map_eq_some_iff.mp h
    rw [String.toList_ofList]
    exact cutEnd_eq_some_iff.mp cut
  · intro h
    rw [cutEnd_eq_some_iff.mpr h, Option.map_some, String.ofList_toList]

theorem isHostable_eq_isSome (uri : String) : isHostable uri = (replicaUri? uri).isSome := by
  rw [Bool.eq_iff_iff, Option.isSome_iff_exists, isHostable, List.isSuffixOf_iff_suffix]
  constructor
  · rintro ⟨cs, same⟩
    refine ⟨String.ofList cs, replicaUri?_eq_some_iff.mpr (String.toList_inj.mp ?_)⟩
    rw [String.toList_append, String.toList_ofList, same]
  · rintro ⟨path, served⟩
    rw [← replicaUri?_eq_some_iff.mp served, String.toList_append]
    exact List.suffix_append _ _

namespace Replica

def takes (pick : Branch) (r : Replica) : List Attributes :=
  match r.task with
  | none => []
  | some t =>
    match t.phase with
    | .streaming (.attributes a :: _) _ => if t.told && pick == .stop then [] else [a]
    | _ => []

structure Fits (d : Descriptor) (taken : List Attributes) (s : Snapshot) : Prop where
  uri : s.uri ++ hostingTag = d.uri
  resourceTypes : s.resourceTypes = d.resourceTypes
  interfaces : s.interfaces = d.interfaces
  revision : s.revision = taken.length
  latest : taken.getLast? = some s.attributes

/-- What a replica shows is due to what it has taken, and as long as it has not ended it shows
something once it has taken anything. -/
structure Presents (taken : List Attributes) (r : Replica) : Prop where
  tagged : r.descriptor.isHostable = true
  unseen : r.lifecycle ≠ .terminated → r.snapshot = none → taken = []
  shown : ∀ s, r.snapshot = some s → r.lifecycle = .active ∧ Fits r.descriptor taken s

variable {taken : List Attributes} {r s : Replica}

theorem Presents.of_same (h : Presents taken r) (descriptor : s.descriptor = r.descriptor)
    (lifecycle : s.lifecycle = r.lifecycle) (snapshot : s.snapshot = r.snapshot) :
    Presents taken s := by
  refine ⟨descriptor ▸ h.tagged, ?_, ?_⟩
  · rw [lifecycle, snapshot]
    exact h.unseen
  · rw [lifecycle, snapshot, descriptor]
    exact h.shown

theorem presents_of_gone (tagged : s.descriptor.isHostable = true)
    (ended : s.lifecycle = .terminated) (hidden : s.snapshot = none) (later : List Attributes) :
    Presents later s := by
  refine ⟨tagged, fun ongoing => absurd ended ongoing, ?_⟩
  intro x shown
  rw [hidden] at shown
  cases shown

theorem Presents.dropTask (h : Presents taken r) (later : List Attributes) :
    Presents later r.dropTask.1 := by
  apply presents_of_gone
  · rw [(passes_dropTask r).descriptor]
    exact h.tagged
  · exact r.lifecycle_dropTask
  · rfl

theorem Presents.finish (h : Presents taken r) (cause : EndCause) (later : List Attributes) :
    Presents later (r.finish cause).1 := by
  apply presents_of_gone
  · rw [(passes_finish cause r).descriptor]
    exact h.tagged
  · exact r.lifecycle_finish cause
  · rfl

theorem Presents.hidden (h : Presents taken r) (ended : r.hasEnded = true) :
    r.snapshot = none := by
  cases shown : r.snapshot with
  | none => rfl
  | some s =>
    have terminated := (hasEnded_eq_true_iff r).mp ended
    rw [(h.shown s shown).1] at terminated
    cases terminated

theorem Presents.publish (h : Presents taken r) (started : r.lifecycle ≠ .created)
    (a : Attributes) : Presents (taken ++ [a]) (r.publish a).1 := by
  cases ended : r.hasEnded with
  | true =>
    rw [publish_of_ended ended]
    exact presents_of_gone h.tagged ((hasEnded_eq_true_iff r).mp ended) (h.hidden ended) _
  | false =>
    have ongoing := (hasEnded_eq_false_iff r).mp ended
    have active : r.lifecycle = .active := by
      cases life : r.lifecycle with
      | created => exact absurd life started
      | active => rfl
      | terminated => exact absurd life ongoing
    cases shown : r.snapshot with
    | some s =>
      obtain ⟨-, fits⟩ := h.shown s shown
      simp only [Replica.publish, ended, shown, Bool.false_eq_true, if_false]
      refine ⟨h.tagged, fun _ hidden => absurd hidden (Option.some_ne_none _), ?_⟩
      rintro _ ⟨⟩
      refine ⟨active, fits.uri, fits.resourceTypes, fits.interfaces, ?_, List.getLast?_concat⟩
      rw [List.length_append, List.length_singleton, fits.revision]
    | none =>
      -- the descriptor is tagged, so the snapshot does not fall back on the whole URI
      obtain ⟨path, served⟩ := Option.isSome_iff_exists.mp
        ((isHostable_eq_isSome r.descriptor.uri).symm.trans h.tagged)
      simp only [Replica.publish, ended, shown, served, Option.getD_some, Bool.false_eq_true,
        if_false, h.unseen ongoing shown, List.nil_append]
      refine ⟨h.tagged, fun _ hidden => absurd hidden (Option.some_ne_none _), ?_⟩
      rintro _ ⟨⟩
      exact ⟨active, replicaUri?_eq_some_iff.mp served, rfl, rfl, rfl, rfl⟩

theorem Presents.hear (h : Presents taken r) (started : r.lifecycle ≠ .created)
    (e : OriginEvent) :
    Presents (taken ++ match e with | .attributes a => [a] | _ => []) (r.hear e).1 := by
  cases e with
  | attributes a => exact h.publish started a
  | state x =>
    simp only [Replica.hear]
    split
    · exact h.finish _ _
    · rw [List.append_nil]
      exact h
  | fault reason => exact h.finish _ _

theorem Presents.takeAnswer (h : Presents taken r) (t : SyncTask) (a : WatchReply) :
    Presents taken (r.takeAnswer t a).1 := by
  cases a with
  | opens => exact h.of_same rfl rfl rfl
  | fails e => exact h.finish _ _
  | panics => exact h.dropTask _

theorem Presents.turn (h : Presents taken r) (staffed : r.Staffed) (pick : Branch)
    (reply : Option WatchReply) : Presents (taken ++ r.takes pick) (r.turn pick reply).1 := by
  have nothing : Presents (taken ++ []) r := by
    rw [List.append_nil]
    exact h
  cases task : r.task with
  | none =>
    simp only [Replica.turn, takes, task]
    exact nothing
  | some t =>
    have started : r.lifecycle ≠ .created := by
      intro created
      rw [staffed.created created] at task
      cases task
    obtain ⟨platform, runtime, phase, told⟩ := t
    cases stops : told && (pick == .stop || !originReady phase) with
    | true =>
      simp only [Replica.turn, task, stops, if_true]
      exact h.dropTask _
    | false =>
      simp only [Replica.turn, task, stops, Bool.false_eq_true, if_false]
      cases phase with
      | queued =>
        simp only [takes, task]
        exact nothing.of_same rfl rfl rfl
      | opening answer =>
        simp only [takes, task]
        cases answer with
        | none => exact nothing
        | some a => exact nothing.takeAnswer _ a
      | streaming events finished =>
        cases events with
        | nil =>
          simp only [takes, task]
          cases finished with
          | true => exact h.finish _ _
          | false => exact nothing
        | cons e events =>
          have chosen : (told && pick == .stop) = false := by
            simpa [originReady] using stops
          have heard := (h.of_same (s := r.setPhase
            ⟨platform, runtime, .streaming (e :: events) finished, told⟩
            (.streaming events finished)) rfl rfl rfl).hear started e
          cases e with
          | attributes a =>
            simp only [takes, task, chosen, Bool.false_eq_true, if_false]
            exact heard
          | state x =>
            simp only [takes, task]
            exact heard
          | fault reason =>
            simp only [takes, task]
            exact heard

theorem Advances.presents (advances : Advances r s) (h : Presents taken r) : Presents taken s := by
  rcases advances with rfl | ⟨t, p, -, rfl⟩
  · exact h
  · exact h.of_same rfl rfl rfl

theorem Presents.activate (h : Presents taken r) (platform runtime : Nat) :
    Presents taken (r.activate platform runtime).2.1 := by
  cases fresh : r.isFresh with
  | false =>
    rw [activate_of_not_isFresh fresh]
    exact h
  | true =>
    have created := (isFresh_eq_true_iff r).mp fresh
    rw [activate_of_isFresh fresh]
    refine ⟨h.tagged, ?_, ?_⟩
    · intro _ hidden
      exact h.unseen (by rw [created]; exact nofun) hidden
    · intro x shown
      have active := (h.shown x shown).1
      rw [created] at active
      cases active

theorem Presents.teardown (h : Presents taken r) : Presents taken r.teardown.2.1 := by
  cases ended : r.hasEnded with
  | true =>
    rw [teardown_of_ended ended]
    exact h
  | false =>
    rw [teardown_of_ongoing ended]
    apply presents_of_gone
    · exact h.tagged
    · rfl
    · rfl

end Replica

end ReplicaHosting
