import Slate.Browser.BrowserState
import Slate.Foundation.SharedTable

/-!
# Tabs, the shown surface and the selected app

The shown surface, the selected app, the tabs and what each tab keeps are copies of one state.
They agree in every run, as long as the web app is selected over web pages only: it is selected
even where the active tab holds the page of another app.
-/

namespace Slate.Browser

open Foundation

def servoBackend (loadAddressWithViewport : String → RenderViewport → RenderSurface) :
    RenderBackend where
  name := "Servo engine"
  loadHome := homeSurface
  loadAddressWithViewport

/-- Internal addresses are answered under the requested address. -/
def AnswersSlate (load : SurfaceLoader) : Prop :=
  ∀ address title viewport, startsWith address.toList "slate://" →
    (load address title viewport).address = address

inductive BrowserEvent where
  | activateTab (index : Nat)
  | selectApp (app : AppId)
  | addMockTab
  | navigate (input : String) (viewport : RenderViewport)
  | ensureActiveWebViewport (viewport : RenderViewport)
  deriving DecidableEq

/-- An event with the directory and the loader that it finds. -/
structure BrowserStep where
  event : BrowserEvent
  currentDirectory : String
  load : SurfaceLoader
  answersSlate : AnswersSlate load

def BrowserState.next (state : BrowserState) (step : BrowserStep) : BrowserState :=
  match step.event with
  | .activateTab index => (state.activateTab step.load index).2
  | .selectApp app => state.selectApp step.load app
  | .addMockTab => state.addMockTab step.load
  | .navigate input viewport =>
    match state.navigate step.load step.currentDirectory input viewport with
    | .ok state => state
    | .error _ => state
  | .ensureActiveWebViewport viewport => (state.ensureActiveWebViewport step.load viewport).2

/-- The copies agree. -/
structure TabsCoherent (state : BrowserState) : Prop where
  validIndex : state.activeTab < state.tabs.length
  cached : ∀ tab ∈ state.tabs, ∀ surface ∈ tab.cachedSurface, tab = .ofSurface surface
  shown : state.activeApp = .web →
    ∃ tab, state.tabs[state.activeTab]? = some tab ∧ tab.cachedSurface = some state.surface
  app : state.activeApp = appForAddress state.surface.address

section Steps

variable {step : BrowserStep} {state next : BrowserState}

/-- The page of an app is in the app. -/
theorem appForAddress_appInternalAddress (app : AppId) :
    appForAddress (appInternalAddress app) = app := by
  cases app <;> decide

/-- What a step does. -/
inductive StepEffect (step : BrowserStep) (state : BrowserState) : BrowserState → Prop where
  | unchanged : StepEffect step state state
  /-- A tab is shown, with the app of its surface. -/
  | shows {index : Nat} {tabs : List Tab} {surface : RenderSurface} (inTabs : index < tabs.length)
      (others : ∀ other ≠ index, tabs[other]? = state.tabs[other]?) :
      StepEffect step state { state with
        tabs := tabs.set index (.ofSurface surface)
        activeTab := index
        activeApp := appForAddress surface.address
        surface }
  /-- The active tab is shown, with the web app. -/
  | showsWeb {tab : Tab} (isSelected : step.event = .selectApp .web)
      (active : state.tabs[state.activeTab]? = some tab) :
      StepEffect step state { state with
        tabs := state.tabs.set state.activeTab (.ofSurface (BrowserState.tabSurface step.load tab))
        activeApp := .web
        surface := BrowserState.tabSurface step.load tab }
  /-- The page of an app is shown, in no tab. -/
  | showsApp {app : AppId} {surface : RenderSurface} (other : app ≠ .web)
      (isPage : surface.address = appInternalAddress app) :
      StepEffect step state { state with activeApp := app, surface }

theorem showsTab_effect {index : Nat} {tabs : List Tab}
    (inTabs : index < tabs.length)
    (others : ∀ other ≠ index, tabs[other]? = state.tabs[other]?) :
    StepEffect step state
      (BrowserState.openActiveTabSurface step.load { state with tabs, activeTab := index }) := by
  obtain ⟨tab, isTab⟩ : ∃ tab, tabs[index]? = some tab :=
    ⟨tabs[index], List.getElem?_eq_getElem inTabs⟩
  unfold BrowserState.openActiveTabSurface BrowserState.cachedActiveTabSurface
  simp only [isTab]
  exact .shows inTabs others

theorem setActiveSurface_effect (valid : state.activeTab < state.tabs.length)
    (surface : RenderSurface) : StepEffect step state (state.setActiveSurface surface) := by
  unfold BrowserState.setActiveSurface
  rw [if_pos valid]
  exact .shows valid fun _ _ => rfl

theorem selectApp_effect (valid : state.activeTab < state.tabs.length) {app : AppId}
    (isSelected : step.event = .selectApp app) :
    StepEffect step state (state.selectApp step.load app) := by
  have page (other : app ≠ .web) :
      (step.load (appInternalAddress app) none .default).address = appInternalAddress app := by
    apply step.answersSlate
    cases app <;> decide
  cases app with
  | web =>
      have active : state.tabs[state.activeTab]? = some state.tabs[state.activeTab] :=
        List.getElem?_eq_getElem valid
      unfold BrowserState.selectApp BrowserState.cachedActiveTabSurface
      simp only [active]
      exact .showsWeb isSelected active
  | downloads | calendar | chat | contacts | files | settings =>
      exact .showsApp AppId.noConfusion (page AppId.noConfusion)

theorem addMockTab_effect : StepEffect step state (state.addMockTab step.load) := by
  unfold BrowserState.addMockTab BrowserState.activateTab
  simp only [List.length_append, List.length_singleton, Nat.add_sub_cancel]
  rw [if_neg (by omega)]
  refine showsTab_effect (by simp) ?_
  intro other isOther
  by_cases before : other < state.tabs.length
  · exact List.getElem?_append_left before
  · rw [List.getElem?_eq_none (by simp; omega), List.getElem?_eq_none (by omega)]

theorem next_effect (valid : state.activeTab < state.tabs.length) :
    StepEffect step state (state.next step) := by
  unfold BrowserState.next
  split
  · rename_i index isEvent
    unfold BrowserState.activateTab
    split
    · exact .unchanged
    · exact showsTab_effect (by omega) fun _ _ => rfl
  · exact selectApp_effect valid ‹_›
  · exact addMockTab_effect
  · rename_i input viewport isEvent
    cases normalized : normalizeNavigationInput step.currentDirectory input with
    | error error =>
        simp only [BrowserState.navigate, normalized]
        exact .unchanged
    | ok address =>
        simp only [BrowserState.navigate, normalized]
        exact setActiveSurface_effect valid _
  · rename_i viewport isEvent
    unfold BrowserState.ensureActiveWebViewport
    split
    · exact .unchanged
    · split
      · exact .unchanged
      · exact setActiveSurface_effect valid _

/-- The web app is selected over a surface of its own. -/
def WebSelected (state : BrowserState) (step : BrowserStep) : Prop :=
  step.event = .selectApp .web → ∀ tab ∈ state.tabs[state.activeTab]?,
    appForAddress (BrowserState.tabSurface step.load tab).address = .web

theorem cached_set {tabs : List Tab} {index : Nat} {surface : RenderSurface}
    (coherent : TabsCoherent state)
    (others : ∀ other ≠ index, tabs[other]? = state.tabs[other]?) :
    ∀ tab ∈ tabs.set index (.ofSurface surface), ∀ surface ∈ tab.cachedSurface,
      tab = .ofSurface surface := by
  intro tab isMember kept isKept
  obtain ⟨position, atPosition⟩ := List.mem_iff_getElem?.mp isMember
  by_cases same : position = index
  · subst same
    obtain ⟨inTabs, isSurface⟩ := List.getElem?_eq_some_iff.mp atPosition
    rw [List.getElem_set_self] at isSurface
    subst isSurface
    obtain rfl : surface = kept := Option.some.inj isKept
    rfl
  · rw [List.getElem?_set_ne (Ne.symm same), others position same] at atPosition
    exact coherent.cached tab (List.mem_of_getElem? atPosition) kept isKept

theorem TabsCoherent.after_step (coherent : TabsCoherent state) (web : WebSelected state step) :
    TabsCoherent (state.next step) := by
  have effect := @next_effect step state coherent.validIndex
  generalize state.next step = next at effect
  cases effect with
  | unchanged => exact coherent
  | shows inTabs others =>
      refine ⟨by simpa using inTabs, cached_set coherent others, fun _ => ?_, rfl⟩
      exact ⟨_, List.getElem?_set_self (by simpa using inTabs), rfl⟩
  | showsWeb isSelected active =>
      refine ⟨by simpa using coherent.validIndex, cached_set coherent fun _ _ => rfl,
        fun _ => ?_, (web isSelected _ active).symm⟩
      exact ⟨_, List.getElem?_set_self (by simpa using coherent.validIndex), rfl⟩
  | showsApp other isPage =>
      refine ⟨coherent.validIndex, coherent.cached, fun isWeb => absurd isWeb other, ?_⟩
      rw [isPage]
      exact (appForAddress_appInternalAddress _).symm

/-- Only a web page can be selected as one. -/
theorem webSelected_of_coherent (coherent : TabsCoherent (state.next step)) :
    WebSelected state step := by
  intro isSelected tab active
  have shown : state.next step = { state with
      tabs := state.tabs.set state.activeTab (.ofSurface (BrowserState.tabSurface step.load tab))
      activeApp := .web
      surface := BrowserState.tabSurface step.load tab } := by
    have active : state.tabs[state.activeTab]? = some tab := active
    simp only [BrowserState.next, isSelected, BrowserState.selectApp,
      BrowserState.cachedActiveTabSurface, active]
  rw [shown] at coherent
  exact coherent.app.symm

theorem other_tabs_after_step (valid : state.activeTab < state.tabs.length) {index : Nat}
    (other : index ≠ (state.next step).activeTab) :
    (state.next step).tabs[index]? = state.tabs[index]? := by
  have effect := @next_effect step state valid
  generalize state.next step = next at effect other
  cases effect with
  | unchanged => rfl
  | shows inTabs others =>
      rw [List.getElem?_set_ne (Ne.symm other)]
      exact others index other
  | showsWeb isSelected active => exact List.getElem?_set_ne (Ne.symm other)
  | showsApp _ isPage => rfl

theorem empty_input_after_step {input : String} {viewport : RenderViewport}
    (isNavigation : step.event = .navigate input viewport) (empty : Text.trim input.toList = []) :
    state.next step = state := by
  have refused : normalizeNavigationInput step.currentDirectory input = .error .empty := by
    simp [normalizeNavigationInput, empty]
  simp only [BrowserState.next, isNavigation, BrowserState.navigate, refused]
  rfl

end Steps

section Runs

variable {start : BrowserState} {steps : List BrowserStep}

/-- In every state of a run the copies agree, and every step keeps to the tab that it makes the
active one. -/
structure RunCoherent (start : BrowserState) (steps : List BrowserStep) : Prop where
  coherent : Throughout BrowserState.next TabsCoherent steps start
  otherTabs : AllTaken BrowserState.next (fun state step =>
    ∀ index ≠ (state.next step).activeTab,
      (state.next step).tabs[index]? = state.tabs[index]?) steps start
  emptyInput : AllTaken BrowserState.next (fun state step => ∀ input viewport,
    step.event = .navigate input viewport → Text.trim input.toList = [] →
      state.next step = state) steps start

theorem coherent_new (loadAddressWithViewport : String → RenderViewport → RenderSurface) :
    TabsCoherent (.new (servoBackend loadAddressWithViewport)) where
  validIndex := Nat.zero_lt_two
  cached := by
    intro tab isMember surface isKept
    rcases List.mem_cons.mp isMember with rfl | isMember
    · obtain rfl : homeSurface = surface := Option.some.inj isKept
      rfl
    · obtain rfl := List.mem_singleton.mp isMember
      cases isKept
  shown := fun _ => ⟨_, rfl, rfl⟩
  app := by
    change AppId.web = appForAddress homeSurface.address
    decide

/-- The tab state stays coherent in exactly the runs that select the web app over web pages
only. -/
theorem runCoherent_iff (loadAddressWithViewport : String → RenderViewport → RenderSurface)
    (steps : List BrowserStep) :
    RunCoherent (.new (servoBackend loadAddressWithViewport)) steps ↔
      AllTaken BrowserState.next WebSelected steps
        (.new (servoBackend loadAddressWithViewport)) := by
  have atStart := coherent_new loadAddressWithViewport
  generalize BrowserState.new (servoBackend loadAddressWithViewport) = start at atStart ⊢
  have throughout_iff : Throughout BrowserState.next TabsCoherent steps start ↔
      AllTaken BrowserState.next WebSelected steps start := by
    apply @throughout_iff_allTaken _ _ _ _ (fun _ => True) _ (fun _ _ _ => trivial) _ _ _ trivial
      atStart
    exact fun state step _ coherent => ⟨webSelected_of_coherent, coherent.after_step⟩
  constructor
  · exact fun run => throughout_iff.mp run.coherent
  · intro selected
    have coherent := throughout_iff.mpr selected
    exact {
      coherent
      otherTabs := fun done step isPrefix _ other =>
        other_tabs_after_step (coherent done ((List.prefix_append _ _).trans isPrefix)).validIndex
          other
      emptyInput := fun _ _ _ _ _ isNavigation empty =>
        empty_input_after_step isNavigation empty }

/-- Every address is answered with the home page, under the address. -/
def homeLoader : SurfaceLoader := fun address _ _ => { homeSurface with address }

theorem answersSlate_homeLoader : AnswersSlate homeLoader := fun _ _ _ _ => rfl

/-- The web app is selected over the calendar. -/
theorem web_app_over_calendar :
    ¬∀ steps, RunCoherent (.new (servoBackend fun address => homeLoader address none)) steps := by
  intro coherent
  have app := ((coherent
    [⟨.navigate "slate://calendar" .default, "/", homeLoader, answersSlate_homeLoader⟩,
      ⟨.selectApp .web, "/", homeLoader, answersSlate_homeLoader⟩]).coherent _
    (List.prefix_refl _)).app
  revert app
  decide +kernel

end Runs

end Slate.Browser
