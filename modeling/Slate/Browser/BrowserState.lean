import Slate.Browser.Navigation

/-!
# The state of the browser

A row of tabs, the app that is selected in the rail and the surface that is shown. A surface is
loaded for an address with the title and the viewport that it is for; what a load answers is
not up to the browser.
-/

namespace Slate.Browser

open Foundation

inductive AppId where
  | web
  | downloads
  | calendar
  | chat
  | contacts
  | files
  | settings
  deriving DecidableEq, Repr

section Surfaces

inductive MetricAccent where
  | teal
  | amber
  | blue
  deriving DecidableEq, Repr

structure RenderMetric where
  label : String
  value : String
  accent : MetricAccent
  deriving DecidableEq, Repr

structure ServoFrame where
  width : Nat
  height : Nat
  pixels : List UInt32
  deriving DecidableEq, Repr

inductive ServoDocumentSource where
  | slateGenerated
  | localFile
  | web
  | broadweb
  | blocked
  deriving DecidableEq, Repr

inductive ServoDocumentStatus where
  | rendered
  | failed (error : String)
  deriving DecidableEq, Repr

structure ServoDocument where
  title : String
  address : String
  frame : ServoFrame
  source : ServoDocumentSource
  status : ServoDocumentStatus
  deriving DecidableEq, Repr

inductive RenderDocument where
  | home
  | web (document : ServoDocument)
  deriving DecidableEq, Repr

structure RenderSurface where
  title : String
  address : String
  summary : String
  metrics : List RenderMetric
  document : RenderDocument
  deriving DecidableEq, Repr

structure RenderViewport where
  width : UInt32
  height : UInt32
  deriving DecidableEq, Repr

def RenderViewport.default : RenderViewport where
  width := 1080
  height := 620

def homeSurface : RenderSurface where
  title := "New Tab"
  address := "slate://home"
  summary := "Home"
  metrics :=
    [⟨"Wikipedia on IPFS", "ipns://en.wikipedia-on-ipfs.org", .teal⟩,
      ⟨"OpenStreetMap", "openstreetmap.org", .amber⟩,
      ⟨"Add bookmark", "Save a favorite site", .blue⟩,
      ⟨"Add another", "Pin your broadweb", .teal⟩]
  document := .home

/-- What an engine draws of addresses. -/
structure RenderBackend where
  name : String
  loadHome : RenderSurface
  loadAddressWithViewport : String → RenderViewport → RenderSurface

/-- A surface for an address, with the title that it falls back on. -/
abbrev SurfaceLoader := String → Option String → RenderViewport → RenderSurface

def surfaceForAddressWithViewport (backend : RenderBackend) : SurfaceLoader :=
  fun address fallbackTitle viewport =>
    let surface := backend.loadAddressWithViewport address viewport
    let surface := if address = "slate://new" then { surface with address } else surface
    match fallbackTitle with
    | some fallbackTitle =>
      if surface.title = "" then { surface with title := fallbackTitle } else surface
    | none => surface

end Surfaces

section Apps

/-- The route of an internal address, in either of its spellings. -/
def slateRoute (address : List Char) : Option (List Char) :=
  if startsWith address "slate://" then some (address.drop "slate://".length)
  else if startsWith address "slate:" then some (address.drop "slate:".length)
  else none

def firstSegment (route : List Char) : List Char :=
  let path := Text.before (fun char => char = '?' || char = '#') route
  Text.before (· = '/') (path.dropWhile (· = '/'))

def slateAddressMatches (address : String) (names : List String) : Bool :=
  match slateRoute address.toList with
  | none => false
  | some route => names.contains (String.ofList (firstSegment route))

def appForAddress (address : String) : AppId :=
  if slateAddressMatches address ["calendar"] then .calendar
  else if slateAddressMatches address ["downloads"] then .downloads
  else if slateAddressMatches address ["chat", "messages"] then .chat
  else if slateAddressMatches address ["contacts"] then .contacts
  else if slateAddressMatches address ["files"] then .files
  else if slateAddressMatches address ["settings"] then .settings
  else .web

def appInternalAddress : AppId → String
  | .web => "slate://web"
  | .downloads => "slate://downloads"
  | .calendar => "slate://calendar"
  | .chat => "slate://chat"
  | .contacts => "slate://contacts"
  | .files => "slate://files"
  | .settings => "slate://settings"

end Apps

structure Tab where
  title : String
  address : String
  cachedSurface : Option RenderSurface
  deriving DecidableEq, Repr

structure BrowserStatus where
  privacy : String
  sync : String
  deriving DecidableEq, Repr

structure BrowserState where
  tabs : List Tab
  activeTab : Nat
  activeApp : AppId
  backendName : String
  surface : RenderSurface
  status : BrowserStatus
  deriving DecidableEq, Repr

/-- The tab that shows a surface. -/
def Tab.ofSurface (surface : RenderSurface) : Tab where
  title := surface.title
  address := surface.address
  cachedSurface := some surface

namespace BrowserState

def new (backend : RenderBackend) : BrowserState where
  tabs :=
    [.ofSurface backend.loadHome,
      { title := "Research", address := "https://servo.org", cachedSurface := none }]
  activeTab := 0
  activeApp := .web
  backendName := backend.name
  surface := backend.loadHome
  status := { privacy := "Protected. Private. Yours.", sync := "Sync On" }

variable (load : SurfaceLoader) (state : BrowserState)

def tabSurface (tab : Tab) : RenderSurface :=
  tab.cachedSurface.getD (load tab.address (some tab.title) .default)

/-- The surface of the active tab, which the tab keeps. -/
def cachedActiveTabSurface : Option RenderSurface × BrowserState :=
  match state.tabs[state.activeTab]? with
  | none => (none, state)
  | some tab =>
    let surface := tabSurface load tab
    (some surface, { state with tabs := state.tabs.set state.activeTab (.ofSurface surface) })

def openActiveTabSurface : BrowserState :=
  match cachedActiveTabSurface load state with
  | (none, state) => state
  | (some surface, state) =>
    { state with activeApp := appForAddress surface.address, surface }

def activateTab (index : Nat) : Bool × BrowserState :=
  if state.tabs.length ≤ index then (false, state)
  else (true, openActiveTabSurface load { state with activeTab := index })

def selectApp (app : AppId) : BrowserState :=
  let state := { state with activeApp := app }
  match app with
  | .web =>
    match cachedActiveTabSurface load state with
    | (none, state) => { state with surface := homeSurface }
    | (some surface, state) => { state with surface }
  | app => { state with surface := load (appInternalAddress app) none .default }

def addMockTab : BrowserState :=
  let tabs := state.tabs ++
    [{ title := s!"Tab {state.tabs.length + 1}"
       address := "slate://new"
       cachedSurface := none }]
  (activateTab load { state with tabs } (tabs.length - 1)).2

def setActiveSurface (surface : RenderSurface) : BrowserState :=
  let state :=
    if state.activeTab < state.tabs.length then
      { state with tabs := state.tabs.set state.activeTab (.ofSurface surface) }
    else
      let tabs := state.tabs ++ [.ofSurface surface]
      { state with tabs, activeTab := tabs.length - 1 }
  { state with activeApp := appForAddress surface.address, surface }

def navigate (currentDirectory input : String) (viewport : RenderViewport) :
    Except NavigationError BrowserState := do
  let address ← normalizeNavigationInput currentDirectory input
  pure (setActiveSurface state (load address none viewport))

def activeSurfaceNeedsViewport (viewport : RenderViewport) : Bool :=
  match state.surface.document with
  | .home => false
  | .web document =>
    match document.status with
    | .failed _ => false
    | .rendered =>
      document.frame.width ≠ viewport.width.toNat || document.frame.height ≠ viewport.height.toNat

def activeWebViewportNeedsRefresh (viewport : RenderViewport) : Bool :=
  state.activeApp = .web && state.activeSurfaceNeedsViewport viewport

def ensureActiveWebViewport (viewport : RenderViewport) : Bool × BrowserState :=
  if !state.activeWebViewportNeedsRefresh viewport then (false, state)
  else
    match state.tabs[state.activeTab]? with
    | none => (false, state)
    | some tab => (true, setActiveSurface state (load tab.address (some tab.title) viewport))

end BrowserState

end Slate.Browser
