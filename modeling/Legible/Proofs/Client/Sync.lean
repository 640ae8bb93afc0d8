import Legible.Client.Outgoing
import Mathlib.Data.List.Induction

/-!
# What a server hears of a document

A server is told that a document is opened with version one, then that it has versions two, three
and so on, and then that it is closed; after that it may be opened again.  `InCycles` says that a
list of such tellings goes this way, as far as it goes, and `replay` decides it
(`inCycles_iff`): it keeps the version of the document while it is open.
-/

namespace Legible.Client

/-- What a message tells a server of one document. -/
inductive Sync
  | opened (version : Nat)
  | changed (version : Nat)
  | closed
  deriving DecidableEq, Repr

namespace Sync

/-- A document is opened, changed some times, and closed. -/
def cycle (changes : Nat) : List Sync :=
  .opened 1 :: ((List.range' 2 changes).map .changed ++ [.closed])

/-- Whether a document is opened, changed and closed over and over, up to some point. -/
def InCycles (ss : List Sync) : Prop := ∃ ns : List Nat, ss <+: ns.flatMap cycle

/-- The version of a document after it had one, or was not open; none if it cannot go on so. -/
def next : Option Nat → Sync → Option (Option Nat)
  | none, .opened v => if v = 1 then some (some v) else none
  | some u, .changed v => if v = u + 1 then some (some v) else none
  | some _, .closed => some none
  | _, _ => none

/-- The version of a document after some steps. -/
def replay : Option Nat → List Sync → Option (Option Nat)
  | v, [] => some v
  | v, s :: rest => (next v s).bind (replay · rest)

theorem replay_append (v : Option Nat) (as bs : List Sync) :
    replay v (as ++ bs) = (replay v as).bind (replay · bs) := by
  induction as generalizing v with
  | nil => rfl
  | cons a as ih =>
    simp only [List.cons_append, replay, Option.bind_assoc]
    exact congrArg _ (funext ih)

theorem replay_concat (v : Option Nat) (ss : List Sync) (s : Sync) :
    replay v (ss ++ [s]) = (replay v ss).bind (next · s) := by
  rw [replay_append]
  congr 1
  funext u
  exact Option.bind_fun_some _

/-- What can be told of an open document cannot be told of one that is not open. -/
theorem replay_exclusive {ss : List Sync} (hne : ss ≠ []) (hnone : (replay none ss).isSome)
    (u : Nat) : replay (some u) ss = none := by
  obtain ⟨s, rest, rfl⟩ := List.exists_cons_of_ne_nil hne
  cases s with
  | opened v => rfl
  | changed v => exact absurd hnone (by simp [replay, next])
  | closed => exact absurd hnone (by simp [replay, next])

theorem replay_changes (v n : Nat) :
    replay (some v) ((List.range' (v + 1) n).map .changed) = some (some (v + n)) := by
  induction n generalizing v with
  | zero => rfl
  | succ n ih =>
    have hstep : next (some v) (.changed (v + 1)) = some (some (v + 1)) := by simp [next]
    rw [List.range'_succ, List.map_cons, replay, hstep, Option.bind_some, ih]
    congr 2
    omega

theorem replay_cycle (n : Nat) : replay none (cycle n) = some none := by
  have hopen : next none (.opened 1) = some (some 1) := rfl
  rw [cycle, replay, hopen, Option.bind_some, replay_append, replay_changes]
  rfl

theorem replay_cycles (ns : List Nat) : replay none (ns.flatMap cycle) = some none := by
  induction ns with
  | nil => rfl
  | cons n ns ih =>
    rw [List.flatMap_cons, replay_append, replay_cycle]
    exact ih

/-- What has gone well so far are whole cycles, and the beginning of one if the document is
open. -/
theorem eq_cycles_of_replay {ss : List Sync} {v : Option Nat} (h : replay none ss = some v) :
    ∃ ns : List Nat, match v with
      | none => ss = ns.flatMap cycle
      | some u => ∃ changes, u = changes + 1 ∧
        ss = ns.flatMap cycle ++ .opened 1 :: (List.range' 2 changes).map .changed := by
  -- the last telling decides which of the two it is
  induction ss using List.reverseRecOn generalizing v with
  | nil =>
    obtain rfl : none = v := Option.some.inj h
    exact ⟨[], rfl⟩
  | append_singleton ss s ih =>
    rw [replay_concat, Option.bind_eq_some_iff] at h
    obtain ⟨u, hu, hs⟩ := h
    obtain ⟨ns, hns⟩ := ih hu
    cases u with
    | none =>
      cases s with
      | opened w =>
        simp only [next, Option.ite_none_right_eq_some, Option.some.injEq] at hs
        obtain ⟨rfl, rfl⟩ := hs
        exact ⟨ns, 0, rfl, by rw [hns]; rfl⟩
      | changed w => simp [next] at hs
      | closed => simp [next] at hs
    | some u =>
      obtain ⟨changes, rfl, rfl⟩ := hns
      cases s with
      | opened w => simp [next] at hs
      | changed w =>
        simp only [next, Option.ite_none_right_eq_some, Option.some.injEq] at hs
        obtain ⟨rfl, rfl⟩ := hs
        refine ⟨ns, changes + 1, rfl, ?_⟩
        rw [List.range'_concat, List.map_append, List.append_assoc, List.cons_append]
        simp only [List.map_cons, List.map_nil, Nat.one_mul]
        rw [show 2 + changes = changes + 1 + 1 by omega]
      | closed =>
        obtain rfl : none = v := Option.some.inj hs
        refine ⟨ns ++ [changes], ?_⟩
        simp [cycle]

theorem inCycles_iff {ss : List Sync} : InCycles ss ↔ (replay none ss).isSome := by
  constructor
  · rintro ⟨ns, rest, hns⟩
    have h : replay none (ss ++ rest) = some none := by rw [hns, replay_cycles]
    rw [replay_append, Option.bind_eq_some_iff] at h
    obtain ⟨v, hv, -⟩ := h
    rw [hv]
    rfl
  · intro h
    obtain ⟨v, hv⟩ := Option.isSome_iff_exists.1 h
    obtain ⟨ns, hns⟩ := eq_cycles_of_replay hv
    cases v with
    | none => exact ⟨ns, hns ▸ List.prefix_rfl⟩
    | some u =>
      obtain ⟨changes, -, rfl⟩ := hns
      exact ⟨ns ++ [changes], [.closed], by simp [cycle]⟩

instance (ss : List Sync) : Decidable (InCycles ss) := decidable_of_iff _ inCycles_iff.symm

theorem InCycles.of_prefix {as bs : List Sync} (h : InCycles bs) (hp : as <+: bs) :
    InCycles as := by
  obtain ⟨ns, hns⟩ := h
  exact ⟨ns, hp.trans hns⟩

end Sync

/-! ## Messages -/

namespace Outgoing

/-- Whether a message is said on behalf of a caller. -/
def isCall : Outgoing → Bool
  | request .. | notify .. | didOpen .. | didChange .. | didClose .. => true
  | initializeRequest .. | initialized | refusal .. | exit => false

/-- Whether a server hears such messages before it has been initialized. -/
def isOpening : Outgoing → Bool
  | initializeRequest .. | refusal .. => true
  | _ => false

/-- Whether a message asks the server to initialize itself. -/
def isInitializeRequest : Outgoing → Bool
  | initializeRequest .. => true
  | _ => false

/-- Whether a message tells the server that it is initialized. -/
def isInitialized : Outgoing → Bool
  | initialized => true
  | _ => false

theorem isCall_of_isOpening {m : Outgoing} (h : m.isOpening) : m.isCall = false := by
  cases m <;> simp_all [isOpening, isCall]

theorem isInitializeRequest_of_isCall {m : Outgoing} (h : m.isCall) :
    m.isInitializeRequest = false := by
  cases m <;> simp_all [isCall, isInitializeRequest]

theorem isInitialized_of_isOpening {m : Outgoing} (h : m.isOpening) : m.isInitialized = false := by
  cases m <;> simp_all [isOpening, isInitialized]

end Outgoing

/-- What a message of the client tells of a document.  What a caller says on his own behalf is not
counted, whatever its method. -/
def Outgoing.sync? (uri : Text) : Outgoing → Option Sync
  | .didOpen u _ version _ => if u = uri then some (.opened version) else none
  | .didChange u version _ => if u = uri then some (.changed version) else none
  | .didClose u => if u = uri then some .closed else none
  | _ => none

/-- What some messages tell of a document. -/
def syncs (uri : Text) (ms : List Outgoing) : List Sync := ms.filterMap (·.sync? uri)

@[simp] theorem syncs_append (uri : Text) (as bs : List Outgoing) :
    syncs uri (as ++ bs) = syncs uri as ++ syncs uri bs := List.filterMap_append ..

theorem prefix_syncs (uri : Text) {as bs : List Outgoing} (h : as <+: bs) :
    syncs uri as <+: syncs uri bs := h.filterMap _

/-! ## What is read on the other side -/

/-- The methods of what the client itself tells of documents. -/
def syncMethods : List Text :=
  ["textDocument/didOpen".toList, "textDocument/didChange".toList, "textDocument/didClose".toList]

/-- The version that a document has according to what is told about it. -/
def versionIn (about : Value) : Nat :=
  match about.field "version".toList with
  | .int v => v.toNat
  | _ => 0

/-- What a server reads about a document; only notifications tell of one. -/
def Sync.ofValue? (uri : Text) (v : Value) : Option Sync :=
  let about := (v.field "params".toList).field "textDocument".toList
  match v.field? "id".toList, v.field "method".toList, about.field "uri".toList with
  | none, .str method, .str u =>
    if u = uri then
      if method = "textDocument/didOpen".toList then some (.opened (versionIn about))
      else if method = "textDocument/didChange".toList then some (.changed (versionIn about))
      else if method = "textDocument/didClose".toList then some .closed
      else none
    else none
  | _, _, _ => none

theorem field_method_notify (method : Text) (params : Value) :
    (Outgoing.notify method params).toValue.field "method".toList = .str method := by
  simp [Outgoing.toValue, Outgoing.notification, Outgoing.message, Value.record, Value.field,
    Value.field?, Value.fields, Fields.get?]

/-- A server reads of a document what the client tells of it, unless a caller uses the methods of
the client himself. -/
theorem Sync.ofValue?_toValue (uri : Text) {m : Outgoing}
    (hm : ∀ method params, m = .notify method params → method ∉ syncMethods) :
    Sync.ofValue? uri m.toValue = m.sync? uri := by
  cases m with
  | notify method params =>
    have hnot := hm method params rfl
    simp only [syncMethods, List.mem_cons, List.not_mem_nil, or_false, not_or] at hnot
    obtain ⟨hopen, hchange, hclose⟩ := hnot
    unfold Sync.ofValue?
    dsimp only
    split
    · rename_i hmethod _
      obtain rfl := Value.str.inj ((field_method_notify method params).symm.trans hmethod)
      rw [if_neg hopen, if_neg hchange, if_neg hclose, ite_self]
      rfl
    · rfl
  | _ =>
    simp [Sync.ofValue?, versionIn, Outgoing.sync?, Outgoing.toValue, Outgoing.notification,
      Outgoing.message, Value.record, Value.literal, Value.field, Value.field?, Value.fields,
      Fields.get?]

end Legible.Client
