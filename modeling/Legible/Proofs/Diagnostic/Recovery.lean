import Legible.Proofs.Diagnostic.Rewording
import Legible.Proofs.Value.Fields
import Mathlib.Data.List.Forall2

/-!
# What is passed on can be recovered

An interceptor rewords the items that a server publishes and passes everything else on as it is: the
other parameters, what is no object, and of each item all fields but the message and the raw message
in its data (`IsKept`).

Where the data of every item can take up the raw message, the diagnostics of what is passed on are
those of the items as the server sent them, without a raw message that they brought along, and with
the reworded text as the one that is delivered (`publish_recovers`).
-/

namespace Legible

namespace Diagnostic

variable {i : Interceptor} {item : Value} {items : List Value} {lineText : Option (Nat → Text)}
  {defaultSource : Option Text}

/-! ## What stays as it is -/

/-- Whether an item is passed on with nothing changed but its message and the raw message in its
data. -/
structure IsKept (item passed : Value) : Prop where
  isObject : passed.isObject = item.isObject
  noObject : item.isObject = false → passed = item
  fields : ∀ key, key ≠ "message".toList → key ≠ "data".toList →
    passed.field? key = item.field? key
  otherData : hasRoom item = false → passed.field? "data".toList = item.field? "data".toList
  dataFields : ∀ key, key ≠ rawKey →
    (passed.field "data".toList).field? key = (item.field "data".toList).field? key

theorem isKept_rewordItem (i : Interceptor) (item : Value) : IsKept item (i.rewordItem item) where
  isObject := by
    cases item with
    | obj fs =>
      unfold Interceptor.rewordItem
      dsimp only
      split <;> rfl
    | _ => rfl
  noObject h := by
    cases item with
    | obj fs => exact absurd h Bool.noConfusion
    | _ => rfl
  fields _ := field?_rewordItem
  otherData := field?_data_rewordItem
  dataFields key hkey := by
    by_cases hroom : hasRoom item
    · cases item with
      | obj fs => exact (field_of_carry (carry_rewordItem rfl hroom)).2 key hkey
      | _ => rfl
    · rw [Value.field, field?_data_rewordItem (Bool.eq_false_iff.2 hroom), Value.field]

/-! ## What the server sent -/

/-- An item without the raw message that its data may bring along. -/
def withoutRaw : Value → Value
  | .obj fs =>
    match Fields.get? "data".toList fs with
    | some (.obj data) =>
      .obj (Fields.set "data".toList (.obj (Fields.erase rawKey data)) fs)
    | _ => .obj fs
  | v => v

/-- A diagnostic with the message that the server sent and the text that is delivered for it. -/
def withMessages (sent delivered : Text) (d : Diagnostic) : Diagnostic :=
  { d with message := sent, publishedMessage := delivered }

theorem field?_withoutRaw {key : Text} (h : key ≠ "data".toList) :
    (withoutRaw item).field? key = item.field? key := by
  unfold withoutRaw
  split
  · split
    · exact Value.field?_set_of_ne h
    · rfl
  · rfl

theorem carried?_withoutRaw (item : Value) : carried? (withoutRaw item) = none := by
  apply carried?_eq_none
  unfold withoutRaw
  split
  · rename_i fs
    split
    · rw [Value.field_set_self]
      exact Fields.get?_erase_self _ _
    · rename_i hdata
      have hfield : (Value.obj fs).field "data".toList =
          (Fields.get? "data".toList fs).getD .null := rfl
      rw [hfield]
      cases hget : Fields.get? "data".toList fs with
      | none => rfl
      | some v =>
        cases v with
        | obj data => exact absurd hget (hdata data)
        | _ => rfl
  · rename_i hobject
    cases item with
    | obj fs => exact absurd rfl (hobject fs)
    | _ => rfl

theorem ofItem_withoutRaw (lineText : Option (Nat → Text)) (defaultSource : Option Text)
    (item : Value) : ofItem lineText defaultSource (withoutRaw item) =
      (ofItem lineText defaultSource item).map
        (Option.map (withMessages (sentMessage item) [])) := by
  have hsent : sentMessage (withoutRaw item) = sentMessage item := by
    rw [sentMessage, Value.field, field?_withoutRaw (by decide), sentMessage, Value.field]
  rw [ofItem_of_field? fun key _ hd => field?_withoutRaw hd, carried?_withoutRaw, hsent]
  rfl

theorem ofItem_rewordItem_of_hasRoom (hroom : hasRoom item) :
    ofItem lineText defaultSource (i.rewordItem item) =
      (ofItem lineText defaultSource item).map (Option.map
        (withMessages (sentMessage item) (i.reworder.reword (sentMessage item)))) := by
  cases item with
  | obj fs =>
    rw [ofItem_of_field? fun key hm hd => field?_rewordItem hm hd,
      carried?_rewordItem_of_hasRoom rfl hroom, sentMessage_rewordItem rfl]
    rfl
  | _ => rfl

/-- Items that are passed on are refused if the items themselves are.  Otherwise they give the
diagnostics of the items without the raw messages that came along, with the reworded texts as those
that are delivered. -/
theorem ofItems_rewordItem_of_hasRoom (hroom : ∀ item ∈ items, hasRoom item) :
    (∃ e, ofItems lineText defaultSource items = .error e ∧
      ofItems lineText defaultSource (items.map i.rewordItem) = .error e) ∨
    ∃ found : List (Value × Diagnostic), found.map (·.1) = located items ∧
      (∀ p ∈ found, p.2.message = sentMessage p.1 ∧ p.2.publishedMessage = []) ∧
      ofItems lineText defaultSource (items.map withoutRaw) = .ok (found.map (·.2)) ∧
      ofItems lineText defaultSource (items.map i.rewordItem) =
        .ok (found.map fun p => { p.2 with
          message := sentMessage p.1
          publishedMessage := i.reworder.reword (sentMessage p.1) }) := by
  rw [ofItems_map fun item _ => ofItem_withoutRaw lineText defaultSource item,
    ofItems_map fun item hitem => ofItem_rewordItem_of_hasRoom (hroom item hitem), ofItems_eq]
  cases hread : readItems lineText defaultSource items with
  | error e => exact .inl ⟨e, rfl, rfl⟩
  | ok read =>
    refine .inr ⟨read.map fun p => (p.1, withMessages (sentMessage p.1) [] p.2), ?_, ?_, ?_, ?_⟩
    · rw [List.map_map, ← map_fst_of_readItems hread]
      rfl
    · exact List.forall_mem_map.2 fun p _ => ⟨rfl, rfl⟩
    · rw [List.map_map]
      rfl
    · rw [List.map_map]
      rfl

/-! ## What is published -/

/-- Parameters of a server whose messages are reworded keep their fields and all values but the
diagnostics, and every item is kept but for its message.  Where all items can take up their raw
messages, the diagnostics of what is passed on are those of the items as they were sent: they are
refused together, and they differ just in the text that is delivered.  Every rule is taken to be
applicable to the messages, as `canApply` says. -/
theorem Interceptor.publish_recovers (i : Interceptor) {server : Text} {fs : Fields}
    (htarget : i.targets server)
    (hlist : fs.get? "diagnostics".toList = some (.arr items)) :
    ∃ out passed, i.publish server (.obj fs) = .obj out ∧
      Fields.names out = Fields.names fs ∧
      (∀ key, key ≠ "diagnostics".toList → Fields.get? key out = fs.get? key) ∧
      Fields.get? "diagnostics".toList out = some (.arr passed) ∧
      passed.length = items.length ∧ List.Forall₂ IsKept items passed ∧
      ((∀ item ∈ items, hasRoom item) → ∀ lineText defaultSource,
        (∃ e, ofPublished lineText defaultSource (.arr items) = .error e ∧
          ofPublished lineText defaultSource (.arr passed) = .error e) ∨
        ∃ found : List (Value × Diagnostic), found.map (·.1) = located items ∧
          (∀ p ∈ found, p.2.message = sentMessage p.1 ∧ p.2.publishedMessage = []) ∧
          ofPublished lineText defaultSource (.arr (items.map withoutRaw)) =
            .ok (found.map (·.2)) ∧
          ofPublished lineText defaultSource (.arr passed) = .ok (found.map fun p => { p.2 with
            message := sentMessage p.1
            publishedMessage := i.reworder.reword (sentMessage p.1) })) := by
  have hpublish : i.publish server (.obj fs) =
      .obj (Fields.set "diagnostics".toList (.arr (items.map i.rewordItem)) fs) := by
    rw [publish, if_pos htarget]
    simp only [hlist]
  have hhas : fs.has "diagnostics".toList := by
    rw [Fields.has, hlist]
    rfl
  refine ⟨_, items.map i.rewordItem, hpublish, Fields.names_set_of_has hhas _,
    fun key hkey => Fields.get?_set_of_ne hkey _ fs, Fields.get?_set_self _ _ fs,
    List.length_map _, ?_, fun hroom lineText defaultSource => ofItems_rewordItem_of_hasRoom hroom⟩
  rw [List.forall₂_map_right_iff, List.forall₂_same]
  exact fun item _ => isKept_rewordItem i item

/-- An item that brings a raw message along, one that is no object, and one without a message. -/
def mixedItems : List Value :=
  [.obj [("data".toList, .obj [(rawKey, .str ['o']), (['f'], .int 1)]), ("range".toList, .obj []),
      ("message".toList, .str ['m'])],
    .int 3,
    .obj [("range".toList, .obj []), ("data".toList, .null)]]

theorem Interceptor.publish_recovers_mixedItems :
    let i : Interceptor := ⟨⟨['>'], false, false, []⟩, [['s']]⟩
    let fs : Fields := [(['v'], .int 2), ("diagnostics".toList, .arr mixedItems)]
    i.targets [' ', 's'] ∧ fs.get? "diagnostics".toList = some (.arr mixedItems) ∧
      (∀ item ∈ mixedItems, hasRoom item) ∧
      ∃ passed ds, (i.publish [' ', 's'] (.obj fs)).field "diagnostics".toList = .arr passed ∧
        List.Forall₂ IsKept mixedItems passed ∧ ofPublished none none (.arr passed) = .ok ds ∧
        ds.map (·.message) = [['m'], []] ∧ ds.map (·.publishedMessage) = [['>', 'm'], ['>']] := by
  intro i fs
  have htarget : i.targets [' ', 's'] := by decide +kernel
  have hlist : fs.get? "diagnostics".toList = some (.arr mixedItems) := rfl
  have hroom : ∀ item ∈ mixedItems, hasRoom item := by decide
  obtain ⟨out, passed, hpublish, -, -, hout, -, hkept, hread⟩ := i.publish_recovers htarget hlist
  have hfield : (i.publish [' ', 's'] (.obj fs)).field "diagnostics".toList = .arr passed := by
    rw [hpublish, Value.field, Value.field?, Value.fields, hout]
    rfl
  rcases hread hroom none none with ⟨e, herror, -⟩ | ⟨found, hfound, -, -, hpassed⟩
  · obtain ⟨ds, hds⟩ : ∃ ds, ofPublished none none (.arr mixedItems) = .ok ds := ⟨_, rfl⟩
    cases hds.symm.trans herror
  · refine ⟨htarget, hlist, hroom, passed, _, hfield, hkept, hpassed, ?_, ?_⟩
    · have hsent := congrArg (List.map sentMessage) hfound
      rw [List.map_map] at hsent ⊢
      exact hsent
    · have hsent := congrArg (List.map fun item => i.reworder.reword (sentMessage item)) hfound
      rw [List.map_map] at hsent ⊢
      exact hsent

end Diagnostic

end Legible
