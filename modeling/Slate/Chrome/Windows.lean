import Mathlib.Data.List.MinMax
import Mathlib.Order.Nat
import Slate.Foundation.Rows
import Slate.Foundation.UrlStandard

/-!
# Web views of a window

A window shows one of its web views. Commands of the user and the delegate of the engine open,
close and activate them, and an internal page is not opened twice. Web views are built by the
engine, outside the repository.
-/

namespace Slate.Chrome

open Slate.Foundation

universe u

/-- What a window asks of a web view and reads of it. -/
structure WebView (Id : Type u) where
  id : Id
  url : Option UrlStandard.Url := none
  shown : Bool := false
  focused : Bool := false
deriving DecidableEq, Repr

structure WebViewCollection (Id : Type u) where
  webviews : List (WebView Id) := []
  creationOrder : List Id := []
  activeWebviewId : Option Id := none
deriving DecidableEq, Repr

variable {Id : Type u} [DecidableEq Id]

namespace WebViewCollection

section Operations

def get (id : Id) (views : WebViewCollection Id) : Option (WebView Id) :=
  Rows.lookup WebView.id id views.webviews

def add (webview : WebView Id) (views : WebViewCollection Id) : WebViewCollection Id :=
  { views with
    creationOrder := views.creationOrder ++ [webview.id]
    webviews := Rows.upsert WebView.id (fun _ inserted => inserted) webview views.webviews }

/-- Without a value, an assertion of the source has failed. -/
def activateWebview (idToActivate : Id) (views : WebViewCollection Id) :
    Option (WebViewCollection Id) :=
  if idToActivate ∈ views.creationOrder then
    some
      { views with
        activeWebviewId := some idToActivate
        webviews := views.webviews.map fun webview =>
          if webview.id ∈ views.creationOrder then
            { webview with
              shown := idToActivate = webview.id
              focused := idToActivate = webview.id }
          else webview }
  else none

def activateWebviewByIndex (index : Nat) (views : WebViewCollection Id) :
    Option (WebViewCollection Id) :=
  match views.creationOrder[index]? with
  | none => some views
  | some id => views.activateWebview id

def remove (id : Id) (views : WebViewCollection Id) : Option (WebViewCollection Id) :=
  let views :=
    { views with
      creationOrder := views.creationOrder.filter (· ≠ id)
      webviews := Rows.erase WebView.id id views.webviews }
  if views.activeWebviewId = some id then
    let views := { views with activeWebviewId := none }
    match views.creationOrder.getLast? with
    | none => some views
    | some newest => views.activateWebview newest
  else some views

/-- The engine has moved a web view to another address. -/
def setUrl (id : Id) (url : Option UrlStandard.Url) (views : WebViewCollection Id) :
    WebViewCollection Id :=
  { views with
    webviews := views.webviews.map fun webview =>
      if webview.id = id then { webview with url } else webview }

end Operations

section Invariants

/-- The web views in the order of creation are those that are stored, each of them once. -/
structure Listed (views : WebViewCollection Id) : Prop where
  once : views.creationOrder.Nodup
  stored : ∀ id, (views.get id).isSome ↔ id ∈ views.creationOrder

/-- One of the web views is active, if there is any, and it alone is shown and has the focus. -/
structure OneShown (views : WebViewCollection Id) : Prop extends Listed views where
  active : ∀ id, views.activeWebviewId = some id → id ∈ views.creationOrder
  anyActive : views.activeWebviewId = none → views.creationOrder = []
  shown : ∀ id webview, views.get id = some webview →
    (webview.shown ↔ views.activeWebviewId = some id) ∧
      (webview.focused ↔ views.activeWebviewId = some id)

def urlOf (id : Id) (views : WebViewCollection Id) : Option UrlStandard.Url :=
  (views.get id).bind (·.url)

variable {views next : WebViewCollection Id} {id other : Id}

theorem oneShown_empty : OneShown ({} : WebViewCollection Id) where
  once := List.nodup_nil
  stored id := by simp [get]
  active id isActive := by cases isActive
  anyActive _ := rfl
  shown id webview found := by cases found

theorem listed_add {webview : WebView Id} (listed : Listed views)
    (fresh : webview.id ∉ views.creationOrder) : Listed (views.add webview) where
  once := List.nodup_append.mpr ⟨listed.once, List.nodup_singleton _, fun first isFirst second
    isSecond same => fresh (List.mem_singleton.mp isSecond ▸ same ▸ isFirst)⟩
  stored id := by
    rw [get, add, Rows.lookup_upsert fun _ _ => rfl, List.mem_append, List.mem_singleton,
      ← listed.stored id, get]
    by_cases same : webview.id = id
    · simp [same]
    · simp [same, Ne.symm same]

theorem urlOf_add {webview : WebView Id} (different : webview.id ≠ id) :
    urlOf id (views.add webview) = urlOf id views := by
  rw [urlOf, urlOf, get, get, add, Rows.lookup_upsert_of_ne (fun _ _ => rfl) different]

/-- Activating a listed web view shows it and hides the others, and changes nothing else. -/
theorem activateWebview_spec (listed : Listed views) (isListed : id ∈ views.creationOrder) :
    ∃ next, views.activateWebview id = some next ∧ OneShown next ∧
      next.creationOrder = views.creationOrder ∧ next.activeWebviewId = some id ∧
      ∀ other, urlOf other next = urlOf other views := by
  let turn := fun webview : WebView Id =>
    if webview.id ∈ views.creationOrder then
      { webview with shown := id = webview.id, focused := id = webview.id }
    else webview
  have keepsKey : ∀ webview, (turn webview).id = webview.id := by
    intro webview
    simp only [turn]
    split <;> rfl
  have found : ∀ other, Rows.lookup WebView.id other (views.webviews.map turn) =
      (views.get other).map turn := fun other => Rows.lookup_map keepsKey views.webviews
  refine ⟨_, if_pos isListed, ⟨⟨listed.once, fun other => ?_⟩, ?_, ?_, ?_⟩, rfl, rfl, ?_⟩
  · rw [get, found, Option.isSome_map]
    exact listed.stored other
  · rintro other isActive
    exact Option.some.inj isActive ▸ isListed
  · intro noneActive
    cases noneActive
  · intro other webview isFound
    rw [get, found] at isFound
    obtain ⟨before, isBefore, rfl⟩ := Option.map_eq_some_iff.mp isFound
    obtain rfl := (Rows.mem_of_lookup isBefore).2
    have inOrder := (listed.stored before.id).mp (Option.isSome_of_mem isBefore)
    simp [turn, inOrder]
  · intro other
    rw [urlOf, urlOf, get, found]
    cases views.get other with
    | none => rfl
    | some webview =>
        simp only [Option.map_some, Option.bind_some, turn]
        split <;> rfl

theorem activateWebviewByIndex_spec (shown : OneShown views) (index : Nat) :
    ∃ next, views.activateWebviewByIndex index = some next ∧ OneShown next := by
  unfold activateWebviewByIndex
  cases found : views.creationOrder[index]? with
  | none => exact ⟨views, rfl, shown⟩
  | some id =>
      obtain ⟨next, activated, nextShown, -⟩ :=
        activateWebview_spec shown.toListed (List.mem_of_getElem? found)
      exact ⟨next, activated, nextShown⟩

/-- Removing a web view keeps the others; the newest of them is shown if it was the active one. -/
theorem remove_spec (shown : OneShown views) (id : Id) :
    ∃ next, views.remove id = some next ∧ OneShown next ∧
      next.creationOrder = views.creationOrder.filter (· ≠ id) ∧
      (views.activeWebviewId ≠ some id → next.activeWebviewId = views.activeWebviewId) ∧
      ∀ other, other ≠ id → urlOf other next = urlOf other views := by
  have found : ∀ other, other ≠ id →
      Rows.lookup WebView.id other (Rows.erase WebView.id id views.webviews) = views.get other :=
    fun other different => Rows.lookup_erase_of_ne different.symm views.webviews
  have listed : Listed
      { views with
        creationOrder := views.creationOrder.filter (· ≠ id)
        webviews := Rows.erase WebView.id id views.webviews
        activeWebviewId := none } := by
    refine ⟨shown.once.filter _, fun other => ?_⟩
    rw [get, List.mem_filter]
    by_cases same : other = id
    · simp [same]
    · rw [found other same, shown.stored other]
      simp [same]
  unfold remove
  by_cases isActive : views.activeWebviewId = some id
  · rw [if_pos isActive]
    dsimp only
    cases newest : (views.creationOrder.filter (· ≠ id)).getLast? with
    | none =>
        have nothing := List.getLast?_eq_none_iff.mp newest
        refine ⟨_, rfl, ⟨listed, ?_, fun _ => nothing, ?_⟩, rfl, absurd isActive, ?_⟩
        · intro other otherActive
          cases otherActive
        · intro other webview isFound
          have isListed := (listed.stored other).mp (Option.isSome_of_mem isFound)
          rw [nothing] at isListed
          cases isListed
        · exact fun other different => congrArg (·.bind (·.url)) (found other different)
    | some newestId =>
        obtain ⟨next, activated, nextShown, order, -, urls⟩ :=
          activateWebview_spec listed (List.mem_of_getLast? newest)
        refine ⟨next, activated, nextShown, order, absurd isActive, fun other different => ?_⟩
        rw [urls]
        exact congrArg (·.bind (·.url)) (found other different)
  · rw [if_neg isActive]
    refine ⟨_, rfl, ⟨⟨listed.once, listed.stored⟩, ?_, ?_, ?_⟩, rfl, fun _ => rfl, ?_⟩
    · intro other otherActive
      refine List.mem_filter.mpr ⟨shown.active other otherActive, ?_⟩
      simpa using fun same : other = id => isActive (same ▸ otherActive)
    · intro noneActive
      simp [shown.anyActive noneActive]
    · intro other webview isFound
      have different : other ≠ id := by
        rintro rfl
        rw [get, Rows.lookup_erase_self] at isFound
        cases isFound
      rw [get, found other different] at isFound
      exact shown.shown other webview isFound
    · exact fun other different => congrArg (·.bind (·.url)) (found other different)

end Invariants

end WebViewCollection

section Window

inductive ReusableInternalPage where
  | home
  | web
  | downloads
  | calendar
  | chat
  | contacts
  | files
  | settings
deriving DecidableEq, Repr

def ReusableInternalPage.closesDuplicates (_ : ReusableInternalPage) : Bool := true

theorem ReusableInternalPage.closesDuplicates_eq (page : ReusableInternalPage) :
    page.closesDuplicates = true := rfl

def ReusableInternalPage.existingTargetIndex (matchingCount : Nat)
    (page : ReusableInternalPage) : Option Nat :=
  if matchingCount = 0 then none
  else
    match page with
    | .home | .web | .downloads | .calendar | .chat | .contacts | .files | .settings =>
        some (matchingCount - 1)

def reusableInternalPage (url : UrlStandard.Url) : Option ReusableInternalPage :=
  if url.scheme ≠ "slate".toList then none
  else
    let path := (url.path.write.dropWhile (· = '/')).rdropWhile (· = '/')
    match url.hostStr.map String.ofList, String.ofList path with
    | some "home", "" | none, "home" => some .home
    | some "web", "" | none, "web" => some .web
    | some "downloads", "" | none, "downloads" => some .downloads
    | some "calendar", "" | none, "calendar" => some .calendar
    | some "chat", "" | none, "chat" | some "messages", "" | none, "messages" => some .chat
    | some "contacts", "" | none, "contacts" => some .contacts
    | some "files", "" | none, "files" => some .files
    | some "settings", "" | none, "settings" => some .settings
    | _, _ => none

/-- The engine builds web views with ids that are not in use. -/
structure Engine (Id : Type u) where
  build : List Id → UrlStandard.Url → WebView Id
  fresh : ∀ taken url, (build taken url).id ∉ taken

instance : Inhabited (Engine Nat) where
  default :=
    { build := fun taken url => { id := taken.foldr max 0 + 1, url }
      fresh := fun _ _ isTaken =>
        Nat.not_succ_le_self _ (List.le_max_of_le isTaken le_rfl) }

variable (engine : Engine Id) (locationBarInputToUrl : String → Option UrlStandard.Url)

def createAndActivateToplevelWebview (url : UrlStandard.Url) (views : WebViewCollection Id) :
    Option (WebViewCollection Id) :=
  let webview := engine.build views.creationOrder url
  (views.add webview).activateWebview webview.id

/-- The web views that show a page, in the order of their creation. -/
def matchingIds (page : ReusableInternalPage) (views : WebViewCollection Id) : List Id :=
  views.creationOrder.filter fun id => (views.urlOf id).bind reusableInternalPage = some page

def closeAll (ids : List Id) (views : WebViewCollection Id) : Option (WebViewCollection Id) :=
  ids.foldlM (fun views id => views.remove id) views

/-- `None` inside stands for an address of no internal page. -/
def openReusableInternalPage (url : UrlStandard.Url) (views : WebViewCollection Id) :
    Option (Option (WebViewCollection Id)) :=
  match reusableInternalPage url with
  | none => some none
  | some page => do
      let matching := matchingIds page views
      match (page.existingTargetIndex matching.length).bind (matching[·]?) with
      | some targetId =>
          let views ← if page.closesDuplicates then closeAll (matching.filter (· ≠ targetId)) views
            else some views
          (views.activateWebview targetId).map some
      | none => (createAndActivateToplevelWebview engine url views).map some

inductive UserInterfaceCommand (Id : Type u) where
  | go (location : String)
  | back
  | forward
  | reload
  | reloadAll
  | newWebView
  | closeWebView (id : Id)
  | newWindow
deriving DecidableEq, Repr

/-- The page of a new tab. -/
def blankUrl : UrlStandard.Url where
  scheme := "slate".toList
  username := []
  password := []
  host := some "blank".toList
  port := none
  path := .segments []
  query := none
  fragment := none

/-- The commands that were queued, until a location is not understood. Loads, moves in a
history and new windows leave the collection alone. -/
def handleInterfaceCommands :
    List (UserInterfaceCommand Id) → WebViewCollection Id → Option (WebViewCollection Id)
  | [], views => some views
  | .go location :: rest, views =>
      match locationBarInputToUrl location with
      | none => some views
      | some url => do
          let opened ← openReusableInternalPage engine url views
          handleInterfaceCommands rest (opened.getD views)
  | .newWebView :: rest, views => do
      handleInterfaceCommands rest (← createAndActivateToplevelWebview engine blankUrl views)
  | .closeWebView id :: rest, views => do handleInterfaceCommands rest (← views.remove id)
  | _ :: rest, views => handleInterfaceCommands rest views

end Window

section Runs

open WebViewCollection

variable {engine : Engine Id} {locationBarInputToUrl : String → Option UrlStandard.Url}
  {views : WebViewCollection Id}

theorem createAndActivate_spec (listed : Listed views) (url : UrlStandard.Url) :
    ∃ next id, createAndActivateToplevelWebview engine url views = some next ∧ OneShown next ∧
      id ∉ views.creationOrder ∧ next.creationOrder = views.creationOrder ++ [id] ∧
      next.activeWebviewId = some id ∧
      ∀ other ∈ views.creationOrder, urlOf other next = urlOf other views := by
  have fresh := engine.fresh views.creationOrder url
  obtain ⟨next, activated, shown, order, active, urls⟩ := activateWebview_spec
    (listed_add listed fresh) (List.mem_append_right _ (List.mem_singleton_self _))
  refine ⟨next, _, activated, shown, fresh, order, active, fun other isListed => ?_⟩
  rw [urls, urlOf_add fun same => fresh (same ▸ isListed)]

theorem closeAll_spec (shown : OneShown views) (ids : List Id) :
    ∃ next, closeAll ids views = some next ∧ OneShown next ∧
      (∀ id, id ∈ next.creationOrder ↔ id ∈ views.creationOrder ∧ id ∉ ids) ∧
      ∀ other, other ∉ ids → urlOf other next = urlOf other views := by
  induction ids generalizing views with
  | nil => exact ⟨views, rfl, shown, by simp, fun _ _ => rfl⟩
  | cons id rest inductionHypothesis =>
      obtain ⟨middle, removed, middleShown, order, -, urls⟩ := remove_spec shown id
      obtain ⟨next, closed, nextShown, kept, restUrls⟩ := inductionHypothesis middleShown
      refine ⟨next, ?_, nextShown, fun other => ?_, fun other notClosed => ?_⟩
      · rw [closeAll, List.foldlM_cons, removed]
        exact closed
      · rw [kept, order, List.mem_filter, List.mem_cons, not_or, and_assoc]
        simp
      · rw [List.mem_cons, not_or] at notClosed
        rw [restUrls other notClosed.2, urls other notClosed.1]

/-- Going to an internal page never opens it twice: of the web views that show it the newest is
kept and shown, or a new one is built if there is none; the web views of other pages stay. -/
theorem openReusableInternalPage_spec (engine : Engine Id) (shown : OneShown views)
    {url : UrlStandard.Url} {page : ReusableInternalPage}
    (isPage : reusableInternalPage url = some page) :
    ∃ next id, openReusableInternalPage engine url views = some (some next) ∧ OneShown next ∧
      next.activeWebviewId = some id ∧
      ((matchingIds page views).getLast? = some id ∨
        (matchingIds page views = [] ∧ id ∉ views.creationOrder)) ∧
      (∀ other, other ∈ next.creationOrder ↔
        other = id ∨ (other ∈ views.creationOrder ∧ other ∉ matchingIds page views)) ∧
      ∀ other ∈ views.creationOrder, other ∈ next.creationOrder →
        urlOf other next = urlOf other views := by
  unfold openReusableInternalPage
  rw [isPage]
  dsimp only
  have index : page.existingTargetIndex (matchingIds page views).length =
      if (matchingIds page views).length = 0 then none
      else some ((matchingIds page views).length - 1) := by
    cases page <;> rfl
  have target : (page.existingTargetIndex (matchingIds page views).length).bind
      ((matchingIds page views)[·]?) = (matchingIds page views).getLast? := by
    rw [index, List.getLast?_eq_getElem?]
    cases matchingIds page views <;> simp
  rw [target]
  cases newest : (matchingIds page views).getLast? with
  | none =>
      have nothing := List.getLast?_eq_none_iff.mp newest
      obtain ⟨next, id, created, nextShown, fresh, order, active, urls⟩ :=
        @createAndActivate_spec _ _ engine _ shown.toListed url
      refine ⟨next, id, by rw [created]; rfl, nextShown, active, .inr ⟨nothing, fresh⟩, ?_,
        fun other isListed _ => urls other isListed⟩
      intro other
      simp [order, nothing, or_comm]
  | some id =>
      have isMatching := List.mem_of_getLast? newest
      have isListed := (List.mem_filter.mp isMatching).1
      obtain ⟨middle, closed, middleShown, kept, urls⟩ :=
        closeAll_spec shown ((matchingIds page views).filter (· ≠ id))
      obtain ⟨next, activated, nextShown, order, active, nextUrls⟩ :=
        activateWebview_spec middleShown.toListed ((kept id).mpr ⟨isListed, by simp⟩)
      refine ⟨next, id, ?_, nextShown, active, .inl rfl, fun other => ?_, fun other _ stays => ?_⟩
      · dsimp only
        rw [if_pos page.closesDuplicates_eq, closed]
        exact congrArg (Option.map some) activated
      · rw [order, kept]
        by_cases same : other = id
        · simp [same, isListed]
        · simp [same]
      · rw [order, kept] at stays
        rw [nextUrls, urls other stays.2]

def understood (locationBarInputToUrl : String → Option UrlStandard.Url) :
    UserInterfaceCommand Id → Bool
  | .go location => (locationBarInputToUrl location).isSome
  | _ => true

/-- Only the commands in front of the first location that is not understood are carried out. -/
theorem handleInterfaceCommands_eq_takeWhile (engine : Engine Id)
    (commands : List (UserInterfaceCommand Id)) :
    handleInterfaceCommands engine locationBarInputToUrl commands views =
      handleInterfaceCommands engine locationBarInputToUrl
        (commands.takeWhile (understood locationBarInputToUrl)) views := by
  induction commands generalizing views with
  | nil => rfl
  | cons command rest inductionHypothesis =>
      cases command with
      | go location =>
          cases isUrl : locationBarInputToUrl location with
          | none => simp [handleInterfaceCommands, understood, isUrl]
          | some url =>
              rw [List.takeWhile_cons_of_pos (by simp [understood, isUrl]),
                handleInterfaceCommands, handleInterfaceCommands, isUrl]
              exact bind_congr fun opened => inductionHypothesis
      | newWebView | closeWebView id => exact bind_congr fun next => inductionHypothesis
      | back | forward | reload | reloadAll | newWindow => exact inductionHypothesis

/-- What happens to a window: commands and keys, clicks on its tabs, and what the engine tells. -/
inductive WindowEvent (Id : Type u) where
  | handleInterfaceCommands (commands : List (UserInterfaceCommand Id))
  | createAndActivate (url : UrlStandard.Url)
  | activateWebview (id : Id)
  | activateWebviewByIndex (index : Nat)
  | closeWebview (id : Id)
  | urlChanged (id : Id) (url : Option UrlStandard.Url)

def WindowEvent.step (engine : Engine Id)
    (locationBarInputToUrl : String → Option UrlStandard.Url) (views : WebViewCollection Id) :
    WindowEvent Id → Option (WebViewCollection Id)
  | handleInterfaceCommands commands =>
      Chrome.handleInterfaceCommands engine locationBarInputToUrl commands views
  | createAndActivate url => createAndActivateToplevelWebview engine url views
  | activateWebview id =>
      if id ∈ views.creationOrder then views.activateWebview id else some views
  | activateWebviewByIndex index => views.activateWebviewByIndex index
  | closeWebview id => views.remove id
  | urlChanged id url => some (views.setUrl id url)

theorem handleInterfaceCommands_spec (shown : OneShown views)
    (commands : List (UserInterfaceCommand Id)) :
    ∃ next, handleInterfaceCommands engine locationBarInputToUrl commands views = some next ∧
      OneShown next := by
  induction commands generalizing views with
  | nil => exact ⟨views, rfl, shown⟩
  | cons command rest inductionHypothesis =>
      cases command with
      | go location =>
          rw [handleInterfaceCommands]
          cases locationBarInputToUrl location with
          | none => exact ⟨views, rfl, shown⟩
          | some url =>
              cases isPage : reusableInternalPage url with
              | none =>
                  obtain ⟨next, handled, nextShown⟩ := inductionHypothesis shown
                  refine ⟨next, ?_, nextShown⟩
                  simp only [openReusableInternalPage, isPage]
                  exact handled
              | some page =>
                  obtain ⟨middle, _, opened, middleShown, -⟩ :=
                    openReusableInternalPage_spec engine shown isPage
                  obtain ⟨next, handled, nextShown⟩ := inductionHypothesis middleShown
                  refine ⟨next, ?_, nextShown⟩
                  dsimp only
                  rw [opened]
                  exact handled
      | newWebView =>
          obtain ⟨middle, _, created, middleShown, -⟩ :=
            @createAndActivate_spec _ _ engine _ shown.toListed blankUrl
          obtain ⟨next, handled, nextShown⟩ := inductionHypothesis middleShown
          refine ⟨next, ?_, nextShown⟩
          rw [handleInterfaceCommands, created]
          exact handled
      | closeWebView id =>
          obtain ⟨middle, removed, middleShown, -⟩ := remove_spec shown id
          obtain ⟨next, handled, nextShown⟩ := inductionHypothesis middleShown
          refine ⟨next, ?_, nextShown⟩
          rw [handleInterfaceCommands, removed]
          exact handled
      | back | forward | reload | reloadAll | newWindow => exact inductionHypothesis shown

theorem oneShown_setUrl (shown : OneShown views) (id : Id) (url : Option UrlStandard.Url) :
    OneShown (views.setUrl id url) := by
  have found : ∀ other, (views.setUrl id url).get other =
      (views.get other).map fun webview =>
        if webview.id = id then { webview with url } else webview := by
    intro other
    refine Rows.lookup_map (fun webview => ?_) views.webviews
    split <;> rfl
  refine ⟨⟨shown.once, fun other => ?_⟩, shown.active, shown.anyActive, fun other webview h => ?_⟩
  · rw [found, Option.isSome_map]
    exact shown.stored other
  · rw [found] at h
    obtain ⟨before, isBefore, rfl⟩ := Option.map_eq_some_iff.mp h
    have shownBefore := shown.shown other before isBefore
    split <;> exact shownBefore

/-- Whatever happens to a window, no assertion fails, one of its web views is active, and it alone
is shown and has the focus. An internal page that is gone to is active then, in one web view. -/
theorem windowEvents_run (engine : Engine Id)
    (locationBarInputToUrl : String → Option UrlStandard.Url) (events : List (WindowEvent Id)) :
    ∃ views, events.foldlM (WindowEvent.step engine locationBarInputToUrl) {} = some views ∧
      OneShown views ∧
      ∀ url page, reusableInternalPage url = some page →
        ∃ next id, openReusableInternalPage engine url views = some (some next) ∧
          OneShown next ∧ next.activeWebviewId = some id ∧
          (id ∈ matchingIds page views ∨ (matchingIds page views = [] ∧ id ∉ views.creationOrder)) ∧
          (∀ other ∈ matchingIds page next, other = id) ∧
          ∀ other ∈ views.creationOrder, other ∉ matchingIds page views →
            other ∈ next.creationOrder ∧ urlOf other next = urlOf other views := by
  have steps : ∀ views : WebViewCollection Id, OneShown views →
      ∃ next, events.foldlM (WindowEvent.step engine locationBarInputToUrl) views = some next ∧
        OneShown next := by
    induction events with
    | nil => exact fun views shown => ⟨views, rfl, shown⟩
    | cons event rest inductionHypothesis =>
        intro views shown
        obtain ⟨middle, stepped, middleShown⟩ :
            ∃ middle, event.step engine locationBarInputToUrl views = some middle ∧
              OneShown middle := by
          cases event with
          | handleInterfaceCommands commands => exact handleInterfaceCommands_spec shown commands
          | createAndActivate url =>
              obtain ⟨next, _, created, nextShown, -⟩ := createAndActivate_spec shown.toListed url
              exact ⟨next, created, nextShown⟩
          | activateWebview id =>
              by_cases isListed : id ∈ views.creationOrder
              · obtain ⟨next, activated, nextShown, -⟩ :=
                  activateWebview_spec shown.toListed isListed
                exact ⟨next, (if_pos isListed).trans activated, nextShown⟩
              · exact ⟨views, if_neg isListed, shown⟩
          | activateWebviewByIndex index => exact activateWebviewByIndex_spec shown index
          | closeWebview id =>
              obtain ⟨next, removed, nextShown, -⟩ := remove_spec shown id
              exact ⟨next, removed, nextShown⟩
          | urlChanged id url => exact ⟨_, rfl, oneShown_setUrl shown id url⟩
        obtain ⟨next, run, nextShown⟩ := inductionHypothesis middle middleShown
        exact ⟨next, by rw [List.foldlM_cons, stepped]; exact run, nextShown⟩
  obtain ⟨views, run, shown⟩ := steps {} oneShown_empty
  refine ⟨views, run, shown, fun url page isPage => ?_⟩
  obtain ⟨next, id, opened, nextShown, active, isOne, kept, urls⟩ :=
    openReusableInternalPage_spec engine shown isPage
  refine ⟨next, id, opened, nextShown, active, isOne.imp_left List.mem_of_getLast?, ?_, ?_⟩
  · intro other isMatching
    obtain ⟨isListed, shows⟩ := List.mem_filter.mp isMatching
    rcases (kept other).mp isListed with same | ⟨wasListed, notMatching⟩
    · exact same
    · rw [urls other wasListed isListed] at shows
      exact absurd (List.mem_filter.mpr ⟨wasListed, shows⟩) notMatching
  · intro other isListed notMatching
    have stays := (kept other).mpr (.inr ⟨isListed, notMatching⟩)
    exact ⟨stays, urls other isListed stays⟩

end Runs

end Slate.Chrome
