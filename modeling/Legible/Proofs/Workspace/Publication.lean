import Legible.Proofs.Diagnostic.Rewording
import Legible.Workspace.Basic

/-!
# Publications with and without rewording

The same publication reaches two workspaces, of which one rewords what the server publishes and the
other does not.  Both tell the same diagnostics for the same file, or neither tells any, and the
diagnostics differ at most in their messages.  The popup rewords from the message, so that should be
what the server sent in both; this is so just if the data of each item can take up the message that
is reworded, or rewording leaves the message as it is (`notification_agree_iff`).
-/

namespace Legible.Workspace

open Diagnostic (carried? hasRoom located publishedItems rawKey sentMessage undelivered unworded)

variable {w : Workspace} {server method : Text} {params : Value}

/-- A workspace that rewords what the server publishes, or not. -/
def rewording (w : Workspace) (b : Bool) : Workspace := { w with rewordPublished := b }

/-- The diagnostics that parameters publish as they come. -/
def publishedAs (w : Workspace) (params : Value) :
    Except NotInteger (Option (Text × List Diagnostic)) :=
  match w.subject? params with
  | none => .ok none
  | some path =>
    (Diagnostic.ofPublished (some (w.lineText path)) Diagnostic.usualSource
      (params.field "diagnostics".toList)).map fun ds => some (path, ds)

theorem published_rewording (h : method = Diagnostic.publishMethod ∧ params.isObject) (b : Bool) :
    (w.rewording b).published server method params =
      w.publishedAs (if b then w.interceptor.publish server params else params) := by
  have hcond : (method = Diagnostic.publishMethod && params.isObject) = true := by
    rw [h.1, h.2]
    rfl
  have hhandle : w.interceptor.handle server method params =
      w.interceptor.publish server params := if_pos h.1
  rw [← hhandle, publishedAs, published, if_pos hcond]
  rfl

/-- What a publication comes to in a workspace that rewords it and in one that does not. -/
theorem published_cases (hraw : ∀ item ∈ publishedItems params, carried? item = none)
    (w : Workspace) (server method : Text) :
    let on := (w.rewording true).published server method params
    let off := (w.rewording false).published server method params
    (∃ e, on = .error e ∧ off = .error e) ∨ (on = .ok none ∧ off = .ok none) ∨
    ∃ path, ∃ found : List (Value × Diagnostic),
      found.map (·.1) = located (publishedItems params) ∧
      (∀ p ∈ found, p.2.message = sentMessage p.1 ∧ p.2.publishedMessage = []) ∧
      on = .ok (some (path, found.map fun p =>
        if w.interceptor.targets server then w.interceptor.mark p.1 p.2 else p.2)) ∧
      off = .ok (some (path, found.map (·.2))) := by
  intro on off
  by_cases h : method = Diagnostic.publishMethod ∧ params.isObject
  · have huri : (w.interceptor.publish server params).field "uri".toList =
        params.field "uri".toList := Diagnostic.Interceptor.field_publish (by decide)
    have hsubject : w.subject? (w.interceptor.publish server params) = w.subject? params := by
      rw [subject?, huri, subject?]
    have hon : on = w.publishedAs (w.interceptor.publish server params) :=
      published_rewording h true
    have hoff : off = w.publishedAs params := published_rewording h false
    rw [hon, hoff, publishedAs, publishedAs, hsubject]
    cases w.subject? params with
    | none => exact .inr (.inl ⟨rfl, rfl⟩)
    | some path =>
      dsimp only
      rcases Diagnostic.ofPublished_cases (some (w.lineText path)) Diagnostic.usualSource hraw
        w.interceptor server with
        ⟨e, hplain, hpassed⟩ | ⟨found, hitems, hmessages, hplain, hpassed⟩
      · rw [hplain, hpassed]
        exact .inl ⟨e, rfl, rfl⟩
      · rw [hplain, hpassed]
        exact .inr (.inr ⟨path, found, hitems, hmessages, rfl, rfl⟩)
  · have hcond : ¬ (method = Diagnostic.publishMethod && params.isObject) = true := by
      simpa using h
    exact .inr (.inl ⟨if_neg hcond, if_neg hcond⟩)

theorem notification_of_error {e : NotInteger}
    (h : w.published w.client.serverName method params = .error e) :
    w.notification method params = (.error e, w) := by
  rw [notification, h]

theorem notification_of_none (h : w.published w.client.serverName method params = .ok none) :
    w.notification method params = (.ok (), w) := by
  rw [notification, h]

theorem notification_of_some {path : Text} {ds : List Diagnostic}
    (h : w.published w.client.serverName method params = .ok (some (path, ds))) :
    w.notification method params = (.ok (), w.emit (.diagnostics path ds)) := by
  rw [notification, h]

/-- Rewording on the way leaves all that is told as it is, apart from the messages that are
delivered, if and only if each item of a server whose messages are reworded can take up its message
or has one that rewording does not change.  Whether it does or not, both workspaces refuse the same
publications, and what they tell is for the same file and has the same length and all fields but
the messages alike. -/
theorem notification_agree_iff (w : Workspace) (method : Text) (params : Value)
    (hfree : ∀ item ∈ publishedItems params, (item.field "data".toList).field? rawKey = none) :
    let on := (w.rewording true).notification method params
    let off := (w.rewording false).notification method params
    on.1 = off.1 ∧
    ((on.2.log = w.log ∧ off.2.log = w.log) ∨
      ∃ path es ds, on.2.log = w.log ++ [.diagnostics path es] ∧
        off.2.log = w.log ++ [.diagnostics path ds] ∧
        ds.map (·.message) = (located (publishedItems params)).map sentMessage ∧
        es.length = ds.length ∧ es.map unworded = ds.map unworded ∧
        (es.map undelivered = ds.map undelivered ↔
          (w.interceptor.targets w.client.serverName →
            ∀ item ∈ located (publishedItems params), hasRoom item ∨
              w.interceptor.reworder.reword (sentMessage item) = sentMessage item))) := by
  intro on off
  have hcases := published_cases (fun item hitem => Diagnostic.carried?_eq_none (hfree item hitem))
    w w.client.serverName method
  rcases hcases with ⟨e, hone, hother⟩ | ⟨hone, hother⟩ | ⟨path, found, hitems, hfound, hone, hother⟩
  · have hon : on = (.error e, w.rewording true) := notification_of_error hone
    have hoff : off = (.error e, w.rewording false) := notification_of_error hother
    rw [hon, hoff]
    exact ⟨rfl, .inl ⟨rfl, rfl⟩⟩
  · have hon : on = (.ok (), w.rewording true) := notification_of_none hone
    have hoff : off = (.ok (), w.rewording false) := notification_of_none hother
    rw [hon, hoff]
    exact ⟨rfl, .inl ⟨rfl, rfl⟩⟩
  · obtain ⟨es, hes⟩ : ∃ es, es = found.map fun p =>
      if w.interceptor.targets w.client.serverName then w.interceptor.mark p.1 p.2 else p.2 :=
      ⟨_, rfl⟩
    rw [← hes] at hone
    have hon : on = (.ok (), (w.rewording true).emit (.diagnostics path es)) :=
      notification_of_some hone
    have hoff : off = (.ok (), (w.rewording false).emit (.diagnostics path (found.map (·.2)))) :=
      notification_of_some hother
    rw [hon, hoff]
    refine ⟨rfl, .inr ⟨path, es, found.map (·.2), rfl, rfl, ?_, ?_, ?_, ?_⟩⟩
    · rw [← hitems, List.map_map, List.map_map]
      exact List.map_congr_left fun p hp => (hfound p hp).1
    · rw [hes, List.length_map, List.length_map]
    · rw [hes, List.map_map, List.map_map]
      refine List.map_congr_left fun p _ => ?_
      simp only [Function.comp_apply]
      split
      · exact w.interceptor.unworded_mark p.1 p.2
      · rfl
    · rw [hes, ← hitems]
      exact w.interceptor.map_undelivered_iff _ fun p hp => (hfound p hp).1

/-- A diagnostic without data and one whose data is an object keep their messages. -/
theorem notification_agree_iff_object :
    let w : Workspace := {
      base := ['/'], root := ['/'], command := ['s'], arguments := [], rewordPublished := true
      interceptor := ⟨⟨['>'], false, false, []⟩, [['s']]⟩
      client := { processId := 7, serverName := ['s'] } }
    let range : Text × Value := ("range".toList, .obj [])
    let plain : Value := .obj [range, ("message".toList, .str ['m'])]
    let rich : Value := .obj [range, ("message".toList, .str ['n']),
      ("data".toList, .obj [(['f'], .int 1)])]
    let params : Value := .obj [("uri".toList, .str "file:///a.ts".toList),
      ("diagnostics".toList, .arr [plain, rich])]
    let on := (w.rewording true).notification Diagnostic.publishMethod params
    let off := (w.rewording false).notification Diagnostic.publishMethod params
    (∀ item ∈ publishedItems params, (item.field "data".toList).field? rawKey = none) ∧
      ∃ path es ds, on.2.log = [.diagnostics path es] ∧ off.2.log = [.diagnostics path ds] ∧
        ds.map (·.message) = [['m'], ['n']] ∧ es.map undelivered = ds.map undelivered := by
  intro w range plain rich params on off
  have hfree : ∀ item ∈ [plain, rich], (item.field "data".toList).field? rawKey = none := by
    simp only [List.forall_mem_cons]
    exact ⟨rfl, rfl, fun _ h => absurd h List.not_mem_nil⟩
  have hroom : ∀ item ∈ [plain, rich], hasRoom item := by decide
  have htold : (on.2.log.length, off.2.log.length) = (1, 1) := by decide +kernel
  obtain ⟨-, ⟨hquiet, -⟩ | ⟨path, es, ds, hon, hoff, hsent, -, -, hiff⟩⟩ :=
    notification_agree_iff w Diagnostic.publishMethod params hfree
  · have hlog : on.2.log.length = 0 := congrArg List.length hquiet
    exact absurd ((congrArg Prod.fst htold).symm.trans hlog) (by decide)
  · exact ⟨hfree, path, es, ds, hon, hoff, hsent, hiff.2 fun _ item h => .inl (hroom item h)⟩

/-- A diagnostic whose data is a list loses its message where it is reworded on its way. -/
theorem notification_disagree_list :
    let w : Workspace := {
      base := ['/'], root := ['/'], command := ['s'], arguments := [], rewordPublished := true
      interceptor := ⟨⟨['>'], false, false, []⟩, [['s']]⟩
      client := { processId := 7, serverName := ['s'] } }
    let item : Value := .obj [("range".toList, .obj []), ("message".toList, .str ['m']),
      ("data".toList, .arr [.int 1])]
    let params : Value := .obj [("uri".toList, .str "file:///a.ts".toList),
      ("diagnostics".toList, .arr [item])]
    let d : Diagnostic := { message := ['m'], line := 0, column := 0, endLine := 0, endColumn := 0
                            source := some "typescript".toList }
    (item.field "data".toList).field? rawKey = none ∧
      ((w.rewording true).notification Diagnostic.publishMethod params).2.log =
        [.diagnostics "/a.ts".toList [{ d with message := ['>', 'm'] }]] ∧
      ((w.rewording false).notification Diagnostic.publishMethod params).2.log =
        [.diagnostics "/a.ts".toList [d]] := ⟨rfl, rfl, rfl⟩

end Legible.Workspace
