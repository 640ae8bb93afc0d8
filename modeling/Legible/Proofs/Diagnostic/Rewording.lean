import Legible.Diagnostic.Interception

/-!
# Diagnostics of reworded items

An item that is reworded on its way gives the diagnostic of the item itself with the reworded text
put in (`ofItem_rewordItem`).  Where the data of the item takes up the raw message, the text is the
published one and the message stays what the server sent; where it cannot, the text takes the place
of the message.  Everything else of the diagnostic is read from fields that stay as they are, so the
diagnostics of a list of items differ in nothing but these texts (`ofPublished_rewordItem`).
-/

namespace Legible

namespace Value

variable {key other : Text} {v : Value} {fs : Fields}

@[simp] theorem field_set_self : (obj (Fields.set key v fs)).field key = v := by
  rw [field, field?, fields, Fields.get?_set_self]
  rfl

theorem field?_set_of_ne (h : other ≠ key) :
    (obj (Fields.set key v fs)).field? other = (obj fs).field? other :=
  Fields.get?_set_of_ne h v fs

theorem field_set_of_ne (h : other ≠ key) :
    (obj (Fields.set key v fs)).field other = (obj fs).field other := by
  rw [field, field?_set_of_ne h, field]

end Value

namespace Diagnostic

/-- The message that the server sent with an item. -/
def sentMessage (item : Value) : Text := (item.field "message".toList).displayOrEmpty

/-- The items that give a diagnostic: those with a range. -/
def located (items : List Value) : List Value :=
  items.filter fun item => (item.field "range".toList).isObject

/-- Whether the data of an item can take up a raw message: there is none, or it is an object. -/
def hasRoom (item : Value) : Bool :=
  match item.field "data".toList with
  | .null => true
  | .obj _ => true
  | _ => false

/-- A diagnostic with the message that was reworded on its way. -/
def Interceptor.mark (i : Interceptor) (item : Value) (d : Diagnostic) : Diagnostic :=
  if hasRoom item then { d with publishedMessage := i.reworder.reword d.message }
  else { d with message := i.reworder.reword d.message }

/-- What a diagnostic says apart from the message that was delivered. -/
def undelivered (d : Diagnostic) : Diagnostic := { d with publishedMessage := [] }

/-- What a diagnostic says apart from its messages. -/
def unworded (d : Diagnostic) : Diagnostic := { d with message := [], publishedMessage := [] }

variable {i : Interceptor} {item : Value} {items : List Value} {lineText : Option (Nat → Text)}
  {defaultSource : Option Text} {d : Diagnostic}

/-! ## One item -/

theorem carried?_eq_none (h : (item.field "data".toList).field? rawKey = none) :
    carried? item = none := by
  rw [carried?, Value.field, h]
  rfl

theorem isSome_carry (raw : Text) (item : Value) :
    (Interceptor.carry raw (item.field "data".toList)).isSome = hasRoom item := by
  rw [hasRoom]
  cases item.field "data".toList <;> rfl

/-- Rewording leaves all fields but two as they are. -/
theorem field?_rewordItem {key : Text} (hm : key ≠ "message".toList) (hd : key ≠ "data".toList) :
    (i.rewordItem item).field? key = item.field? key := by
  cases item with
  | obj fs =>
    unfold Interceptor.rewordItem
    dsimp only
    split
    · rw [Value.field?_set_of_ne hd, Value.field?_set_of_ne hm]
    · rw [Value.field?_set_of_ne hm]
  | _ => rfl

theorem displayOrEmpty_str (t : Text) : (Value.str t).displayOrEmpty = t := by
  cases t <;> rfl

theorem sentMessage_rewordItem (h : item.isObject) :
    sentMessage (i.rewordItem item) = i.reworder.reword (sentMessage item) := by
  have hne : "message".toList ≠ "data".toList := by decide
  cases item with
  | obj fs =>
    unfold Interceptor.rewordItem
    dsimp only
    split
    · rw [sentMessage, Value.field_set_of_ne hne, Value.field_set_self, displayOrEmpty_str]
      rfl
    · rw [sentMessage, Value.field_set_self, displayOrEmpty_str]
      rfl
  | _ => exact absurd h Bool.false_ne_true

/-- Data that takes up a raw message holds it, and otherwise what it held before. -/
theorem field_of_carry {raw : Text} {v data : Value} (h : Interceptor.carry raw v = some data) :
    data.field rawKey = .str raw ∧ ∀ key, key ≠ rawKey → data.field? key = v.field? key := by
  unfold Interceptor.carry at h
  split at h
  · obtain rfl := Option.some.inj h
    refine ⟨rfl, fun key hkey => ?_⟩
    rw [Value.field?, Value.fields, Fields.get?, if_neg (Ne.symm hkey)]
    rfl
  · obtain rfl := Option.some.inj h
    exact ⟨Value.field_set_self, fun key hkey => Value.field?_set_of_ne hkey⟩
  · exact absurd h (Option.some_ne_none _).symm

theorem carry_rewordItem (h : item.isObject) (hroom : hasRoom item) :
    Interceptor.carry (sentMessage item) (item.field "data".toList) =
      some ((i.rewordItem item).field "data".toList) := by
  cases item with
  | obj fs =>
    rw [← isSome_carry (sentMessage (.obj fs))] at hroom
    obtain ⟨data, hdata⟩ := Option.isSome_iff_exists.1 hroom
    have hcarry : Interceptor.carry (Fields.getD "message".toList fs).displayOrEmpty
        (Fields.getD "data".toList fs) = some data := hdata
    unfold Interceptor.rewordItem
    dsimp only
    rw [hcarry, Value.field_set_self]
    exact hdata
  | _ => exact absurd h Bool.false_ne_true

/-- An item that can take up its raw message brings it along, whatever its data held before. -/
theorem carried?_rewordItem_of_hasRoom (h : item.isObject) (hroom : hasRoom item) :
    carried? (i.rewordItem item) = some (sentMessage item) := by
  rw [carried?, (field_of_carry (carry_rewordItem h hroom)).1]
  rfl

/-- The data of an item that cannot take up its raw message stays as it is. -/
theorem field?_data_rewordItem (hroom : hasRoom item = false) :
    (i.rewordItem item).field? "data".toList = item.field? "data".toList := by
  have hne : "data".toList ≠ "message".toList := by decide
  cases item with
  | obj fs =>
    rw [← isSome_carry (sentMessage (.obj fs)), Option.isSome_eq_false_iff, Option.isNone_iff_eq_none]
      at hroom
    have hcarry : Interceptor.carry (Fields.getD "message".toList fs).displayOrEmpty
        (Fields.getD "data".toList fs) = none := hroom
    unfold Interceptor.rewordItem
    dsimp only
    rw [hcarry, Value.field?_set_of_ne hne]
  | _ => rfl

theorem carried?_rewordItem (h : item.isObject) (hraw : carried? item = none) :
    carried? (i.rewordItem item) = if hasRoom item then some (sentMessage item) else none := by
  split
  · rename_i hroom
    exact carried?_rewordItem_of_hasRoom h hroom
  · rename_i hroom
    have hdata : (i.rewordItem item).field "data".toList = item.field "data".toList := by
      rw [Value.field, field?_data_rewordItem (Bool.eq_false_iff.2 hroom), Value.field]
    rw [carried?, hdata]
    exact hraw

/-- All of a diagnostic but its messages is read from the fields other than message and data. -/
theorem ofItem_of_field? {other : Value}
    (h : ∀ key, key ≠ "message".toList → key ≠ "data".toList → other.field? key = item.field? key) :
    ofItem lineText defaultSource other = (ofItem lineText defaultSource item).map (Option.map
      fun d => { d with
        message := (carried? other).getD (sentMessage other)
        publishedMessage := if (carried? other).isSome then sentMessage other else [] }) := by
  have hfield (key : Text) (hm : key ≠ "message".toList) (hd : key ≠ "data".toList) :
      other.field key = item.field key := by rw [Value.field, h key hm hd, Value.field]
  unfold ofItem
  rw [hfield "range".toList (by decide) (by decide), h "severity".toList (by decide) (by decide),
    hfield "source".toList (by decide) (by decide), hfield "code".toList (by decide) (by decide)]
  dsimp only
  split
  · cases position ((item.field "range".toList).field "start".toList) with
    | error e => rfl
    | ok start =>
      cases position ((item.field "range".toList).field "end".toList) with
      | error e => rfl
      | ok stop =>
        cases severityName ((item.field? "severity".toList).getD (.int 1)) with
        | error e => rfl
        | ok severity => rfl
  · rfl

/-- What an item gives that brings no raw message along. -/
theorem messages_of_ofItem (hraw : carried? item = none)
    (h : ofItem lineText defaultSource item = .ok (some d)) :
    d.message = sentMessage item ∧ d.publishedMessage = [] := by
  have hself := @ofItem_of_field? item lineText defaultSource item fun _ _ _ => rfl
  rw [h, hraw] at hself
  obtain ⟨hmessage, -, -, -, -, -, -, -, hpublished⟩ :=
    Diagnostic.mk.inj (Option.some.inj (Except.ok.inj hself))
  exact ⟨hmessage, hpublished⟩

theorem ofItem_rewordItem (hraw : carried? item = none) :
    ofItem lineText defaultSource (i.rewordItem item) =
      (ofItem lineText defaultSource item).map (Option.map (i.mark item)) := by
  cases item with
  | obj fs =>
    rw [ofItem_of_field? fun key hm hd => field?_rewordItem hm hd, carried?_rewordItem rfl hraw,
      sentMessage_rewordItem rfl]
    cases hitem : ofItem lineText defaultSource (.obj fs) with
    | error e => rfl
    | ok d? =>
      cases d? with
      | none => rfl
      | some d =>
        obtain ⟨hmessage, hpublished⟩ := messages_of_ofItem hraw hitem
        simp only [Except.map, Option.map_some, Interceptor.mark, hmessage]
        cases hasRoom (.obj fs) with
        | true => simp [← hmessage]
        | false => simp [← hpublished]
  | _ => rfl

/-- An item gives a diagnostic if it has a range. -/
theorem isSome_of_ofItem {d? : Option Diagnostic} (h : ofItem lineText defaultSource item = .ok d?) :
    d?.isSome = (item.field "range".toList).isObject := by
  have hfails {e : NotInteger} (he : Except.error e = Except.ok d?) (p : Prop) : p := nomatch he
  unfold ofItem at h
  dsimp only at h
  split at h
  · rename_i hrange
    rw [hrange]
    cases hstart : position ((item.field "range".toList).field "start".toList) with
    | error e => exact hfails (hstart ▸ h) _
    | ok start =>
      cases hstop : position ((item.field "range".toList).field "end".toList) with
      | error e => exact hfails (hstop ▸ hstart ▸ h) _
      | ok stop =>
        cases hseverity : severityName ((item.field? "severity".toList).getD (.int 1)) with
        | error e => exact hfails (hseverity ▸ hstop ▸ hstart ▸ h) _
        | ok severity =>
          rw [hstart, hstop, hseverity] at h
          obtain rfl := Except.ok.inj h
          rfl
  · rename_i hrange
    obtain rfl := Except.ok.inj h
    simpa using hrange

/-! ## Lists of items -/

/-- The items that give a diagnostic, each with its diagnostic. -/
def readItems (lineText : Option (Nat → Text)) (defaultSource : Option Text) :
    List Value → Except NotInteger (List (Value × Diagnostic))
  | [] => pure []
  | item :: rest => do
    let d? ← ofItem lineText defaultSource item
    let others ← readItems lineText defaultSource rest
    pure ((d?.map (item, ·)).toList ++ others)

/-- Where each item is changed so that its diagnostic changes in some way, the diagnostics of all
items change in that way. -/
theorem ofItems_map {f : Value → Value} {change : Value → Diagnostic → Diagnostic}
    (h : ∀ item ∈ items, ofItem lineText defaultSource (f item) =
      (ofItem lineText defaultSource item).map (Option.map (change item))) :
    ofItems lineText defaultSource (items.map f) =
      (readItems lineText defaultSource items).map (List.map fun p => change p.1 p.2) := by
  induction items with
  | nil => rfl
  | cons item rest ih =>
    rw [List.map_cons, ofItems, readItems, h item List.mem_cons_self,
      ih fun a ha => h a (List.mem_cons_of_mem item ha)]
    cases ofItem lineText defaultSource item with
    | error e => rfl
    | ok d? =>
      cases readItems lineText defaultSource rest with
      | error e => rfl
      | ok others => cases d? <;> rfl

theorem ofItems_eq (lineText : Option (Nat → Text)) (defaultSource : Option Text)
    (items : List Value) : ofItems lineText defaultSource items =
      (readItems lineText defaultSource items).map (List.map (·.2)) := by
  have hid := @ofItems_map items lineText defaultSource id (fun _ d => d) fun item _ => by
    simp only [id]
    cases ofItem lineText defaultSource item <;> simp [Except.map]
  rwa [List.map_id] at hid

variable {found : List (Value × Diagnostic)}

theorem readItems_cons_cases {rest : List Value}
    (h : readItems lineText defaultSource (item :: rest) = .ok found) :
    ∃ d? others, ofItem lineText defaultSource item = .ok d? ∧
      readItems lineText defaultSource rest = .ok others ∧
      found = (d?.map (item, ·)).toList ++ others := by
  rw [readItems] at h
  cases hfirst : ofItem lineText defaultSource item with
  | error e =>
    rw [hfirst] at h
    exact nomatch h
  | ok d? =>
    cases hrest : readItems lineText defaultSource rest with
    | error e =>
      rw [hfirst, hrest] at h
      exact nomatch h
    | ok others =>
      rw [hfirst, hrest] at h
      exact ⟨d?, others, rfl, rfl, (Except.ok.inj h).symm⟩

/-- The items with a range give a diagnostic, in order. -/
theorem map_fst_of_readItems (h : readItems lineText defaultSource items = .ok found) :
    found.map (·.1) = located items := by
  induction items generalizing found with
  | nil =>
    obtain rfl := Except.ok.inj h
    rfl
  | cons item rest ih =>
    obtain ⟨d?, others, hfirst, hrest, rfl⟩ := readItems_cons_cases h
    rw [located, List.filter_cons, ← isSome_of_ofItem hfirst, List.map_append, ih hrest]
    cases d? <;> rfl

theorem ofItem_of_mem_readItems (h : readItems lineText defaultSource items = .ok found)
    {p : Value × Diagnostic} (hp : p ∈ found) :
    p.1 ∈ items ∧ ofItem lineText defaultSource p.1 = .ok (some p.2) := by
  induction items generalizing found with
  | nil =>
    obtain rfl := Except.ok.inj h
    exact absurd hp List.not_mem_nil
  | cons item rest ih =>
    obtain ⟨d?, others, hfirst, hrest, rfl⟩ := readItems_cons_cases h
    rcases List.mem_append.1 hp with hp | hp
    · obtain ⟨d, hd, rfl⟩ := Option.map_eq_some_iff.1 (Option.mem_toList.1 hp)
      exact ⟨List.mem_cons_self, hd ▸ hfirst⟩
    · obtain ⟨hmem, hitem⟩ := ih hrest hp
      exact ⟨List.mem_cons_of_mem item hmem, hitem⟩

/-- The items with a range and their diagnostics, or the reason why there are none. -/
theorem ofItems_cases (hraw : ∀ item ∈ items, carried? item = none) :
    (∃ e, ofItems lineText defaultSource items = .error e ∧
      ofItems lineText defaultSource (items.map i.rewordItem) = .error e) ∨
    ∃ found : List (Value × Diagnostic), found.map (·.1) = located items ∧
      (∀ p ∈ found, p.2.message = sentMessage p.1 ∧ p.2.publishedMessage = []) ∧
      ofItems lineText defaultSource items = .ok (found.map (·.2)) ∧
      ofItems lineText defaultSource (items.map i.rewordItem) =
        .ok (found.map fun p => i.mark p.1 p.2) := by
  rw [ofItems_eq, ofItems_map fun item hitem => ofItem_rewordItem (hraw item hitem)]
  cases hread : readItems lineText defaultSource items with
  | error e => exact .inl ⟨e, rfl, rfl⟩
  | ok found =>
    refine .inr ⟨found, map_fst_of_readItems hread, fun p hp => ?_, rfl, rfl⟩
    obtain ⟨hmem, hitem⟩ := ofItem_of_mem_readItems hread hp
    exact messages_of_ofItem (hraw p.1 hmem) hitem

/-! ## Published parameters -/

/-- The items that parameters publish. -/
def publishedItems (params : Value) : List Value :=
  match params.field "diagnostics".toList with
  | .arr items => items
  | _ => []

variable {server method : Text} {params : Value}

theorem ofPublished_eq (params : Value) :
    ofPublished lineText defaultSource (params.field "diagnostics".toList) =
      ofItems lineText defaultSource (publishedItems params) := by
  rw [publishedItems]
  cases params.field "diagnostics".toList <;> rfl

/-- Nothing but the diagnostics is reworded. -/
theorem Interceptor.field_publish {key : Text} (hkey : key ≠ "diagnostics".toList) :
    (i.publish server params).field key = params.field key := by
  unfold Interceptor.publish
  repeat' split
  · exact Value.field_set_of_ne hkey
  all_goals rfl

theorem Interceptor.publishedItems_publish (i : Interceptor) (server : Text) (params : Value) :
    publishedItems (i.publish server params) =
      if i.targets server then (publishedItems params).map i.rewordItem
      else publishedItems params := by
  unfold Interceptor.publish
  split
  · cases params with
    | obj fs =>
      have hfield : (Value.obj fs).field "diagnostics".toList =
          (Fields.get? "diagnostics".toList fs).getD .null := rfl
      dsimp only
      split
      · rename_i items hitems
        rw [publishedItems, Value.field_set_self, publishedItems, hfield, hitems]
        rfl
      · rename_i hitems
        have hnone : publishedItems (.obj fs) = [] := by
          rw [publishedItems, hfield]
          cases hget : Fields.get? "diagnostics".toList fs with
          | none => rfl
          | some v =>
            cases v with
            | arr items => exact absurd hget (hitems items)
            | _ => rfl
        rw [hnone, List.map_nil]
    | _ => rfl
  · rfl

/-- The diagnostics of parameters as they are and as they are passed on. -/
theorem ofPublished_cases (lineText : Option (Nat → Text)) (defaultSource : Option Text)
    (hraw : ∀ item ∈ publishedItems params, carried? item = none) (i : Interceptor)
    (server : Text) :
    let plain := ofPublished lineText defaultSource (params.field "diagnostics".toList)
    let passed := ofPublished lineText defaultSource
      ((i.publish server params).field "diagnostics".toList)
    (∃ e, plain = .error e ∧ passed = .error e) ∨
    ∃ found : List (Value × Diagnostic), found.map (·.1) = located (publishedItems params) ∧
      (∀ p ∈ found, p.2.message = sentMessage p.1 ∧ p.2.publishedMessage = []) ∧
      plain = .ok (found.map (·.2)) ∧
      passed = .ok (found.map fun p => if i.targets server then i.mark p.1 p.2 else p.2) := by
  intro plain passed
  have hplain : plain = ofItems lineText defaultSource (publishedItems params) :=
    ofPublished_eq params
  have hpassed : passed = ofItems lineText defaultSource (publishedItems (i.publish server params)) :=
    ofPublished_eq _
  rw [i.publishedItems_publish] at hpassed
  rw [hplain, hpassed]
  rcases ofItems_cases (i := i) hraw with ⟨e, hone, hother⟩ | ⟨found, hitems, hmessages, hone, hother⟩
  · refine .inl ⟨e, hone, ?_⟩
    split
    · exact hother
    · exact hone
  · refine .inr ⟨found, hitems, hmessages, hone, ?_⟩
    split
    · exact hother
    · exact hone

/-! ## What is changed -/

theorem Interceptor.unworded_mark (i : Interceptor) (item : Value) (d : Diagnostic) :
    (i.mark item d).unworded = d.unworded := by
  unfold Interceptor.mark
  split <;> rfl

theorem Interceptor.undelivered_mark_iff (i : Interceptor) (item : Value) (d : Diagnostic) :
    (i.mark item d).undelivered = d.undelivered ↔
      hasRoom item ∨ i.reworder.reword d.message = d.message := by
  unfold Interceptor.mark
  split
  · rename_i hroom
    exact iff_of_true rfl (.inl hroom)
  · rename_i hroom
    rw [or_iff_right hroom]
    exact ⟨fun h => congrArg message h, fun h => congrArg undelivered (by rw [h])⟩

/-- Passing items on leaves their diagnostics as they are, apart from the messages that are
delivered, if each item can take up its message or has one that rewording does not change. -/
theorem Interceptor.map_undelivered_iff (i : Interceptor) (server : Text)
    {found : List (Value × Diagnostic)} (hfound : ∀ p ∈ found, p.2.message = sentMessage p.1) :
    (found.map fun p => if i.targets server then i.mark p.1 p.2 else p.2).map undelivered =
        (found.map (·.2)).map undelivered ↔
      (i.targets server → ∀ item ∈ found.map (·.1),
        hasRoom item ∨ i.reworder.reword (sentMessage item) = sentMessage item) := by
  rw [List.map_map, List.map_map, List.map_inj_left, List.forall_mem_map]
  cases i.targets server with
  | false => simp
  | true =>
    simp only [Function.comp_apply, if_true, true_implies]
    refine forall₂_congr fun p hp => ?_
    rw [i.undelivered_mark_iff, hfound p hp]

end Diagnostic

end Legible
