import Legible.Client.Incoming
import Mathlib.Data.List.DropRight

/-!
# The ledger of requests

What happens to the requests of a client is a list of happenings: sessions begin, requests are made,
and messages of the server are heard, some of which answer a request.  The happenings alone tell
which requests wait for an answer (`ledgerOf`).

Where every request takes the next number of the ledger, and every message is compared with the
ledger (`Driven`), answers and requests of a session match one to one (`matched_of_driven`).
-/

namespace Legible.Client

/-! ## Answers -/

/-- The answer to a request: an error or a result. -/
structure Answer where
  id : Nat
  request : Request
  failed : Bool
  value : Value

/-- What a message says about a request. -/
def Answer.ofMessage (message : Fields) (id : Nat) (r : Request) : Answer :=
  match Fields.get? "error".toList message with
  | some error => ⟨id, r, true, error⟩
  | none => ⟨id, r, false, Fields.getD "result".toList message⟩

/-- A message that may give an answer: it names no method, its number is that of the request, and
it has an error if the answer is one. -/
structure Answer.IsIn (a : Answer) (message : Fields) : Prop where
  method : methodOf message = []
  id : ∃ v, Fields.get? "id".toList message = some v ∧ v.toInteger = .ok (a.id : Int)
  failed : a.failed = (Fields.get? "error".toList message).isSome
  value : a.value = if a.failed then Fields.getD "error".toList message
    else Fields.getD "result".toList message

theorem Answer.isIn_iff {a : Answer} {message : Fields} :
    a.IsIn message ↔ methodOf message = [] ∧
      (∃ v, Fields.get? "id".toList message = some v ∧ v.toInteger = .ok (a.id : Int)) ∧
      a = .ofMessage message a.id a.request := by
  obtain ⟨id, r, failed, value⟩ := a
  have hget : Fields.getD "error".toList message =
      (Fields.get? "error".toList message).getD .null := rfl
  constructor
  · rintro ⟨hmethod, hid, hfailed, hvalue⟩
    refine ⟨hmethod, hid, ?_⟩
    dsimp only at hfailed hvalue
    unfold ofMessage
    cases herror : Fields.get? "error".toList message with
    | none =>
      obtain rfl : failed = false := hfailed.trans (by rw [herror]; rfl)
      obtain rfl := hvalue.trans (if_neg Bool.false_ne_true)
      rfl
    | some error =>
      obtain rfl : failed = true := hfailed.trans (by rw [herror]; rfl)
      obtain rfl : value = error := hvalue.trans (by rw [if_pos rfl, hget, herror]; rfl)
      rfl
  · rintro ⟨hmethod, hid, heq⟩
    unfold ofMessage at heq
    cases herror : Fields.get? "error".toList message with
    | none =>
      rw [herror] at heq
      obtain ⟨-, -, rfl, rfl⟩ := Answer.mk.inj heq
      exact ⟨hmethod, hid, by rw [herror]; rfl, rfl⟩
    | some error =>
      rw [herror] at heq
      obtain ⟨-, -, rfl, rfl⟩ := Answer.mk.inj heq
      exact ⟨hmethod, hid, by rw [herror]; rfl, by rw [if_pos rfl, hget, herror]; rfl⟩

/-! ## Ledgers -/

/-- The requests that wait for an answer, and the number of the next one. -/
structure Ledger where
  nextId : Nat := 1
  requests : List (Nat × Request) := []
  deriving DecidableEq

/-- The ledger of a session. -/
def Session.ledger (s : Session) : Ledger := ⟨s.nextId, s.requests⟩

namespace Ledger

/-- The answer that a message gives to a request of the ledger. -/
def answer? (b : Ledger) (message : Fields) : Option Answer :=
  if methodOf message = [] then
    match (Fields.get? "id".toList message).map Value.toInteger with
    | some (.ok (.ofNat id)) => (b.requests.lookup id).map (.ofMessage message id)
    | _ => none
  else none

theorem lookup_eq_some_iff_mem {requests : List (Nat × Request)}
    (hnodup : (requests.map Prod.fst).Nodup) {id : Nat} {r : Request} :
    requests.lookup id = some r ↔ (id, r) ∈ requests := by
  rw [List.lookup_eq_some_iff]
  constructor
  · rintro ⟨as, bs, rfl, -⟩
    simp
  · intro hmem
    obtain ⟨as, bs, rfl⟩ := List.append_of_mem hmem
    refine ⟨as, bs, rfl, fun p hp => bne_iff_ne.2 ?_⟩
    -- no other request has the same number
    rw [List.map_append, List.map_cons, List.nodup_append] at hnodup
    exact (hnodup.2.2 p.1 (List.mem_map_of_mem hp) id List.mem_cons_self).symm

theorem answer?_eq_some_iff {b : Ledger} (hnodup : (b.requests.map Prod.fst).Nodup)
    {message : Fields} {a : Answer} :
    b.answer? message = some a ↔ a.IsIn message ∧ (a.id, a.request) ∈ b.requests := by
  rw [Answer.isIn_iff]
  unfold answer?
  split
  · rename_i hmethod
    split
    · rename_i id hid
      obtain ⟨v, hv, hint⟩ := Option.map_eq_some_iff.1 hid
      rw [Option.map_eq_some_iff]
      constructor
      · rintro ⟨r, hr, rfl⟩
        have hmessage : (Answer.ofMessage message id r).id = id ∧
            (Answer.ofMessage message id r).request = r := by
          unfold Answer.ofMessage
          split <;> exact ⟨rfl, rfl⟩
        rw [hmessage.1, hmessage.2]
        exact ⟨⟨hmethod, ⟨v, hv, hint⟩, rfl⟩, (lookup_eq_some_iff_mem hnodup).1 hr⟩
      · rintro ⟨⟨-, ⟨w, hw, hint'⟩, heq⟩, hmem⟩
        obtain rfl : v = w := Option.some.inj (hv.symm.trans hw)
        have hnum : id = a.id := Int.ofNat.inj (Except.ok.inj (hint.symm.trans hint'))
        refine ⟨a.request, ?_, ?_⟩
        · rw [hnum]
          exact (lookup_eq_some_iff_mem hnodup).2 hmem
        · rw [hnum]
          exact heq.symm
    · rename_i hnone
      refine iff_of_false (fun h => nomatch h) ?_
      rintro ⟨⟨-, ⟨v, hv, hint⟩, -⟩, -⟩
      exact hnone a.id (by rw [hv, Option.map_some, hint]; rfl)
  · rename_i hmethod
    exact iff_of_false (fun h => nomatch h) fun h => hmethod h.1.1

end Ledger

/-! ## Happenings -/

/-- What happens to the requests of a client. -/
inductive Happening
  /-- A session begins; the process of the one before may have ended. -/
  | began (ended : Bool)
  | asked (id : Nat) (r : Request)
  /-- A message of the server is handled, while there is a process or not.  It may answer a
  request. -/
  | heard (running : Bool) (message : Fields) (answer : Option Answer)

/-- Whether a session begins. -/
def Happening.isBegan : Happening → Bool
  | .began _ => true
  | _ => false

/-- What has happened since the last session began. -/
def since (h : List Happening) : List Happening := h.rtakeWhile (!·.isBegan)

theorem since_concat_began (h : List Happening) (ended : Bool) : since (h ++ [.began ended]) = [] :=
  List.rtakeWhile_concat_neg _ _ _ Bool.false_ne_true

theorem since_concat {x : Happening} (hx : x.isBegan = false) (h : List Happening) :
    since (h ++ [x]) = since h ++ [x] :=
  List.rtakeWhile_concat_pos _ _ _ (by rw [hx]; rfl)

theorem since_append {h hs : List Happening} (hnone : ∀ x ∈ hs, x.isBegan = false) :
    since (h ++ hs) = since h ++ hs := by
  induction hs generalizing h with
  | nil => simp
  | cons x hs ih =>
    rw [List.append_cons, ih fun y hy => hnone y (List.mem_cons_of_mem x hy),
      since_concat (hnone x List.mem_cons_self), ← List.append_cons]

namespace Ledger

/-- The ledger after something has happened. -/
def after (b : Ledger) : Happening → Ledger
  | .began _ => {}
  | .asked id r => ⟨id + 1, b.requests ++ [(id, r)]⟩
  | .heard _ _ none => b
  | .heard _ _ (some a) => { b with requests := b.requests.filter (·.1 ≠ a.id) }

/-- What may happen, given a ledger: a request takes the next number, and a message answers the
request that the ledger has for it. -/
def Fits (b : Ledger) : Happening → Prop
  | .began _ => True
  | .asked id _ => id = b.nextId
  | .heard _ message answer => answer = b.answer? message

/-- What may happen in a row. -/
def Driven : Ledger → List Happening → Prop
  | _, [] => True
  | b, x :: h => b.Fits x ∧ Driven (b.after x) h

theorem driven_append {b : Ledger} {h h' : List Happening} :
    b.Driven (h ++ h') ↔ b.Driven h ∧ (h.foldl after b).Driven h' := by
  induction h generalizing b with
  | nil => simp [Driven]
  | cons x h ih => simp only [List.cons_append, Driven, ih, List.foldl_cons, and_assoc]

end Ledger

/-- The ledger that happenings leave. -/
def ledgerOf (h : List Happening) : Ledger := h.foldl Ledger.after {}

theorem ledgerOf_concat (h : List Happening) (x : Happening) :
    ledgerOf (h ++ [x]) = (ledgerOf h).after x := List.foldl_concat _ _ _ _

/-! ## Requests and their answers -/

/-- The ledger of a session in which something has happened: a request waits if and only if it was
made and has not been answered, and numbers that were used are less than the next one. -/
structure Accounts (now : List Happening) (b : Ledger) : Prop where
  asked_lt : ∀ id r, .asked id r ∈ now → id < b.nextId
  answered_lt : ∀ running m a, .heard running m (some a) ∈ now → a.id < b.nextId
  mem_iff : ∀ id r, (id, r) ∈ b.requests ↔
    .asked id r ∈ now ∧ ∀ running m a, .heard running m (some a) ∈ now → a.id ≠ id
  nodup : (b.requests.map Prod.fst).Nodup

variable {now h : List Happening} {b : Ledger}

theorem accounts_nil : Accounts [] {} := by
  constructor <;> simp

theorem Accounts.asked (h : Accounts now b) (r : Request) :
    Accounts (now ++ [.asked b.nextId r]) (b.after (.asked b.nextId r)) where
  asked_lt id s hs := by
    rcases List.mem_append.1 hs with hold | hnew
    · exact Nat.lt_succ_of_lt (h.asked_lt id s hold)
    · obtain ⟨rfl, -⟩ := Happening.asked.inj (List.mem_singleton.1 hnew)
      exact Nat.lt_succ_self _
  answered_lt running m a ha := by
    rcases List.mem_append.1 ha with hold | hnew
    · exact Nat.lt_succ_of_lt (h.answered_lt running m a hold)
    · exact Happening.noConfusion (List.mem_singleton.1 hnew)
  mem_iff id s := by
    have hanswered {running : Bool} {m : Fields} {a : Answer} :
        .heard running m (some a) ∈ now ++ [.asked b.nextId r] ↔
          .heard running m (some a) ∈ now := by simp
    simp only [Ledger.after, List.mem_append, h.mem_iff, hanswered, List.mem_singleton,
      Prod.mk.injEq, Happening.asked.injEq]
    constructor
    · rintro (⟨hasked, hopen⟩ | ⟨rfl, rfl⟩)
      · exact ⟨.inl hasked, hopen⟩
      · exact ⟨.inr ⟨rfl, rfl⟩, fun running m a ha => Nat.ne_of_lt (h.answered_lt running m a ha)⟩
    · rintro ⟨hasked | hnew, hopen⟩
      · exact .inl ⟨hasked, hopen⟩
      · exact .inr hnew
  nodup := by
    simp only [Ledger.after, List.map_append, List.map_cons, List.map_nil]
    refine List.nodup_append.2 ⟨h.nodup, by simp, ?_⟩
    rintro id hid id' hid' rfl
    obtain rfl := List.mem_singleton.1 hid'
    obtain ⟨⟨id, s⟩, hs, heq⟩ := List.mem_map.1 hid
    exact Nat.ne_of_lt (h.asked_lt id s ((h.mem_iff id s).1 hs).1) heq

theorem Accounts.heard (h : Accounts now b) (running : Bool) (message : Fields) :
    Accounts (now ++ [.heard running message (b.answer? message)])
      (b.after (.heard running message (b.answer? message))) := by
  have hasked {id : Nat} {r : Request} {answer : Option Answer} :
      .asked id r ∈ now ++ [.heard running message answer] ↔ .asked id r ∈ now := by simp
  cases hanswer : b.answer? message with
  | none =>
    have hanswered {r : Bool} {m : Fields} {a : Answer} :
        .heard r m (some a) ∈ now ++ [.heard running message none] ↔
          .heard r m (some a) ∈ now := by simp
    constructor
    · exact fun id r hr => h.asked_lt id r (hasked.1 hr)
    · exact fun r m a ha => h.answered_lt r m a (hanswered.1 ha)
    · intro id r
      simp only [hasked, hanswered]
      exact h.mem_iff id r
    · exact h.nodup
  | some a =>
    have hwaits := ((Ledger.answer?_eq_some_iff h.nodup).1 hanswer).2
    have hanswered {r : Bool} {m : Fields} {a' : Answer} :
        .heard r m (some a') ∈ now ++ [.heard running message (some a)] ↔
          .heard r m (some a') ∈ now ∨ r = running ∧ m = message ∧ a' = a := by simp
    constructor
    · exact fun id r hr => h.asked_lt id r (hasked.1 hr)
    · intro r m a' ha
      rcases hanswered.1 ha with hold | ⟨-, -, rfl⟩
      · exact h.answered_lt r m a' hold
      · exact h.asked_lt a'.id a'.request ((h.mem_iff _ _).1 hwaits).1
    · intro id r
      simp only [Ledger.after, List.mem_filter, h.mem_iff, hasked, hanswered, decide_eq_true_eq]
      constructor
      · rintro ⟨⟨hr, hopen⟩, hne⟩
        refine ⟨hr, fun r m a' ha => ?_⟩
        rcases ha with hold | ⟨-, -, rfl⟩
        · exact hopen r m a' hold
        · exact hne.symm
      · rintro ⟨hr, hopen⟩
        exact ⟨⟨hr, fun r m a' ha => hopen r m a' (.inl ha)⟩,
          (hopen running message a (.inr ⟨rfl, rfl, rfl⟩)).symm⟩
    · exact h.nodup.sublist (List.filter_sublist.map Prod.fst)

/-- The ledger tells of the last session what happened in it. -/
theorem accounts_of_driven (h : List Happening) (hd : Ledger.Driven {} h) :
    Accounts (since h) (ledgerOf h) := by
  induction h using List.reverseRecOn with
  | nil => exact accounts_nil
  | append_singleton h x ih =>
    obtain ⟨hbefore, hfits, -⟩ := Ledger.driven_append.1 hd
    have hx := ih hbefore
    rw [ledgerOf_concat]
    cases x with
    | began ended =>
      rw [since_concat_began]
      exact accounts_nil
    | asked id r =>
      obtain rfl : id = (ledgerOf h).nextId := hfits
      rw [since_concat rfl]
      exact hx.asked r
    | heard running message answer =>
      obtain rfl : answer = (ledgerOf h).answer? message := hfits
      rw [since_concat rfl]
      exact hx.heard running message

/-- Requests and answers match: in a session no two requests have the same number, and a message
gives an answer if and only if it is one to a request that was made in the same session and has
not been answered before. -/
structure Matched (h : List Happening) : Prop where
  asked : ∀ {before id r after}, h = before ++ .asked id r :: after →
    ∀ r', .asked id r' ∉ since before
  heard : ∀ {before running message answer after},
    h = before ++ .heard running message answer :: after →
    ∀ a, answer = some a ↔ a.IsIn message ∧ .asked a.id a.request ∈ since before ∧
      ∀ running' m a', .heard running' m (some a') ∈ since before → a'.id ≠ a.id

theorem matched_of_driven (hd : Ledger.Driven {} h) : Matched h where
  asked {before id r after} hsplit r' hmem := by
    subst hsplit
    obtain ⟨hbefore, hfits, -⟩ := Ledger.driven_append.1 hd
    obtain rfl : id = (ledgerOf before).nextId := hfits
    exact Nat.lt_irrefl _ ((accounts_of_driven before hbefore).asked_lt _ _ hmem)
  heard {before running message answer after} hsplit a := by
    subst hsplit
    obtain ⟨hbefore, hfits, -⟩ := Ledger.driven_append.1 hd
    obtain rfl : answer = (ledgerOf before).answer? message := hfits
    have haccounts := accounts_of_driven before hbefore
    rw [Ledger.answer?_eq_some_iff haccounts.nodup, haccounts.mem_iff]

end Legible.Client
