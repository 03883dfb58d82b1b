import Slate.Browser.AddressRules
import Slate.Browser.TabCoherence

/-!
# The two spellings of an internal address

The rail finds the app of `slate:` and of `slate://` addresses alike. The address bar knows only
the long spelling, so what is entered in the short one is never taken for an internal address.
-/

namespace Slate.Browser

open Foundation

section Routes

variable {address route : List Char}

theorem slateRoute_short (noSlash : route.head? ≠ some '/') :
    slateRoute ("slate:".toList ++ route) = some route := by
  have length : "slate:".length = "slate:".toList.length := by decide
  have notLong : startsWith ("slate:".toList ++ route) "slate://" = false := by
    rw [← Bool.not_eq_true, startsWith_iff]
    cases route with
    | nil => decide
    | cons first rest =>
        have other : first ≠ '/' := fun same => noSlash (congrArg some same)
        simp [Ne.symm other]
  have short : startsWith ("slate:".toList ++ route) "slate:" = true :=
    startsWith_iff.mpr (List.prefix_append _ _)
  simp only [slateRoute, notLong, short, Bool.false_eq_true, if_false, if_true, length,
    List.drop_left]

theorem slateRoute_long : slateRoute ("slate://".toList ++ route) = some route := by
  have length : "slate://".length = "slate://".toList.length := by decide
  have long : startsWith ("slate://".toList ++ route) "slate://" = true :=
    startsWith_iff.mpr (List.prefix_append _ _)
  simp only [slateRoute, long, if_true, length, List.drop_left]

theorem slateRoute_of_head (other : address.head? ≠ some 's') : slateRoute address = none := by
  have notStart (word : String) (wordHead : word.toList.head? = some 's') :
      startsWith address word = false := by
    rw [← Bool.not_eq_true, startsWith_iff]
    rintro ⟨behind, rfl⟩
    exact other (head_append wordHead)
  simp [slateRoute, notStart "slate://" (by decide), notStart "slate:" (by decide)]

theorem slateRoute_searchAddress {input : List Char} :
    slateRoute (searchAddress input) = some ("search?q=".toList ++ encodeQuery input) := by
  have isSearch : searchAddress input =
      "slate://".toList ++ ("search?q=".toList ++ encodeQuery input) := rfl
  rw [isSearch, slateRoute_long]

theorem firstSegment_search {input : List Char} :
    firstSegment ("search?q=".toList ++ encodeQuery input) = "search".toList := by
  simp [firstSegment, Text.before]

end Routes

section Apps

variable {address other : String} {route : List Char}

/-- The first segments of the internal addresses of the apps. -/
def appNames : List String :=
  ["calendar", "downloads", "chat", "messages", "contacts", "files", "settings"]

theorem appForAddress_congr (same : slateRoute address.toList = slateRoute other.toList) :
    appForAddress address = appForAddress other := by
  have matches_eq (names : List String) :
      slateAddressMatches address names = slateAddressMatches other names := by
    unfold slateAddressMatches
    rw [same]
  unfold appForAddress
  simp only [matches_eq]

theorem appForAddress_of_noRoute (noRoute : slateRoute address.toList = none) :
    appForAddress address = .web := by
  simp [appForAddress, slateAddressMatches, noRoute]

theorem appForAddress_eq_web_iff (isRoute : slateRoute address.toList = some route) :
    appForAddress address = .web ↔ String.ofList (firstSegment route) ∉ appNames := by
  have matches_iff (names : List String) : slateAddressMatches address names = true ↔
      String.ofList (firstSegment route) ∈ names := by
    simp [slateAddressMatches, isRoute]
  unfold appForAddress
  simp only [matches_iff, appNames]
  generalize String.ofList (firstSegment route) = segment
  constructor
  · intro isWeb
    repeat' split at isWeb
    all_goals first
      | exact AppId.noConfusion isWeb
      | simp_all
  · intro noName
    simp only [List.mem_cons, List.not_mem_nil, or_false, not_or] at noName ⊢
    simp [noName]

end Apps

section Navigation

variable {directory trimmed address : List Char}

/-- Only an address with a scheme that the bar knows can be the page of an app. -/
theorem appForAddress_of_rule (rule : AddressRule directory trimmed address)
    (notSupported : ¬hasSupportedScheme (Text.toAsciiLowercase trimmed)) :
    appForAddress (String.ofList address) = .web := by
  by_cases isInternal : address.head? = some 's'
  · rcases rule.internal isInternal with rfl | ⟨-, supported⟩
    · rw [appForAddress_eq_web_iff (by rw [String.toList_ofList]; exact slateRoute_searchAddress),
        firstSegment_search]
      decide
    · exact absurd supported notSupported
  · apply appForAddress_of_noRoute
    rw [String.toList_ofList]
    exact slateRoute_of_head isInternal

theorem not_supported_short {route : List Char} (noSlash : route.head? ≠ some '/') :
    ¬hasSupportedScheme (Text.toAsciiLowercase ("slate:".toList ++ route)) := by
  have other : (Text.toAsciiLowercase route).head? ≠ some '/' := by
    rw [Text.toAsciiLowercase, List.head?_map]
    intro isSlash
    obtain ⟨first, isFirst, same⟩ := Option.map_eq_some_iff.mp isSlash
    rw [Text.eq_of_toLower_eq same (by decide)] at isFirst
    exact noSlash isFirst
  rw [Text.toAsciiLowercase, List.map_append]
  change ¬hasSupportedScheme ("slate:".toList ++ Text.toAsciiLowercase route) = true
  generalize Text.toAsciiLowercase route = lower at other
  cases lower with
  | nil => decide
  | cons first rest =>
      have notSlash : first ≠ '/' := fun same => other (congrArg some same)
      simp [hasSupportedScheme, startsWith, Ne.symm notSlash]

end Navigation

section Spellings

/-- A loader that keeps the requested address. -/
def KeepsAddress (load : SurfaceLoader) : Prop :=
  ∀ address title viewport, (load address title viewport).address = address

theorem keepsAddress_homeLoader : KeepsAddress homeLoader := fun _ _ _ => rfl

/-- The app that is selected by a navigation. -/
def navigatedApp (load : SurfaceLoader) (state : BrowserState) (currentDirectory input : String)
    (viewport : RenderViewport) : Except NavigationError AppId :=
  (state.navigate load currentDirectory input viewport).map (·.activeApp)

/-- Both spellings of an internal address open the same app. -/
structure SpellingsAgree (route : String) : Prop where
  apps : appForAddress ("slate:" ++ route) = appForAddress ("slate://" ++ route)
  navigations : ∀ (load : SurfaceLoader) (state : BrowserState) (currentDirectory : String)
    (viewport : RenderViewport), KeepsAddress load →
      navigatedApp load state currentDirectory ("slate:" ++ route) viewport =
        navigatedApp load state currentDirectory ("slate://" ++ route) viewport

variable {load : SurfaceLoader} {state : BrowserState} {currentDirectory route : String}
  {viewport : RenderViewport}

theorem navigatedApp_of_normalized {input address : String} (keeps : KeepsAddress load)
    (normalized : normalizeNavigationInput currentDirectory input = .ok address) :
    navigatedApp load state currentDirectory input viewport = .ok (appForAddress address) := by
  simp only [navigatedApp, BrowserState.navigate, normalized]
  change Except.ok (appForAddress (load address none viewport).address) = _
  rw [keeps]

theorem trim_scheme (scheme : String) (unspaced : Text.Unspaced scheme.toList)
    (nonempty : scheme.toList ≠ []) (isTrimmed : Text.trim route.toList = route.toList) :
    Text.trim (scheme ++ route).toList = (scheme ++ route).toList := by
  have trimmedEnd : route.toList.rdropWhile Text.isWhitespace = route.toList := by
    rw [← isTrimmed, Text.trim, List.rdropWhile_idempotent]
  rw [String.toList_append, Text.trim_append_of_unspaced unspaced nonempty, trimmedEnd]

theorem navigatedApp_short (keeps : KeepsAddress load) (noSlash : route.toList.head? ≠ some '/')
    (isTrimmed : Text.trim route.toList = route.toList) :
    navigatedApp load state currentDirectory ("slate:" ++ route) viewport = .ok .web := by
  have same := trim_scheme "slate:" (by decide) (by decide) isTrimmed
  have normalized : normalizeNavigationInput currentDirectory ("slate:" ++ route) =
      .ok (String.ofList (navigationAddress currentDirectory.toList ("slate:" ++ route).toList)) := by
    unfold normalizeNavigationInput
    rw [same]
    simp
  rw [navigatedApp_of_normalized keeps normalized]
  apply congrArg Except.ok
  apply appForAddress_of_rule (navigationAddress_rule _ _)
  rw [String.toList_append]
  exact not_supported_short noSlash

theorem navigatedApp_long (keeps : KeepsAddress load)
    (isTrimmed : Text.trim route.toList = route.toList) :
    navigatedApp load state currentDirectory ("slate://" ++ route) viewport =
      .ok (appForAddress ("slate://" ++ route)) := by
  have same := trim_scheme "slate://" (by decide) (by decide) isTrimmed
  have settled : Settled ("slate://" ++ route).toList := by
    rw [String.toList_append] at same ⊢
    exact settled_of_notHttp same (httpHost_append_of_head 's' (by decide) (by decide))
      (hasSupportedScheme_of_scheme (by decide) _)
  have isAddress := @navigationAddress_of_settled currentDirectory.toList _ settled
  apply navigatedApp_of_normalized keeps
  unfold normalizeNavigationInput
  have nonempty : ("slate://" ++ route).toList ≠ [] := by
    rw [String.toList_append]
    exact List.append_ne_nil_of_left_ne_nil (by decide) _
  dsimp only
  rw [isAddress, same, if_neg nonempty, String.ofList_toList]

/-- Both spellings open the web app, or the short one alone does. -/
theorem spellingsAgree_iff (route : String) (noSlash : route.toList.head? ≠ some '/')
    (isTrimmed : Text.trim route.toList = route.toList) :
    SpellingsAgree route ↔ String.ofList (firstSegment route.toList) ∉ appNames := by
  have isLong : slateRoute ("slate://" ++ route).toList = some route.toList := by
    rw [String.toList_append, slateRoute_long]
  rw [← appForAddress_eq_web_iff isLong]
  constructor
  · intro agree
    have same := agree.navigations homeLoader (.new (servoBackend fun address => homeLoader address none)) "/" .default
      keepsAddress_homeLoader
    rw [navigatedApp_short keepsAddress_homeLoader noSlash isTrimmed,
      navigatedApp_long keepsAddress_homeLoader isTrimmed] at same
    exact (Except.ok.inj same).symm
  · intro isWeb
    constructor
    · apply appForAddress_congr
      rw [String.toList_append, slateRoute_short noSlash, isLong]
    · intro load state currentDirectory viewport keeps
      rw [navigatedApp_short keeps noSlash isTrimmed, navigatedApp_long keeps isTrimmed, isWeb]

/-- A page of no app is opened alike in both spellings. -/
theorem spellingsAgree_home : SpellingsAgree "home" :=
  (spellingsAgree_iff "home" (by decide) (by decide +kernel)).mpr (by decide +kernel)

/-- The contacts open in their app in one spelling only. -/
theorem contacts_in_one_spelling :
    ¬∀ route : String, route.toList.head? ≠ some '/' → Text.trim route.toList = route.toList →
      SpellingsAgree route := by
  intro agree
  have same := (agree "contacts" (by decide) (by decide +kernel)).navigations homeLoader
    (.new (servoBackend fun address => homeLoader address none)) "/" .default keepsAddress_homeLoader
  revert same
  decide +kernel

end Spellings

end Slate.Browser
