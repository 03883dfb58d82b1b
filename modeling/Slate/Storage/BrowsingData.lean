import Slate.Foundation.Rows
import Slate.Foundation.WriteStamps
import Slate.Foundation.Text
import Mathlib.Data.List.Induction
import Mathlib.Data.List.Sort
import Mathlib.Data.Prod.Lex
import Mathlib.Data.String.Basic

/-!
# Cookies and browsing history

The tables that the browser writes while pages are visited. They take no part in profile sync.
-/

namespace Slate.Storage

open Slate.Foundation

section Tables

structure CookieUpdate where
  profile : String
  domain : String
  path : String
  name : String
  value : String
  expiresAt : Option Int
  isSecure : Bool
  isHttpOnly : Bool
  sameSite : Option String
deriving DecidableEq, Repr

structure CookieRecord extends CookieUpdate where
  createdAt : Int
  updatedAt : Int
deriving DecidableEq, Repr

structure HistoryVisitRecord where
  profile : String
  url : String
  title : Option String
  firstVisitedAt : Int
  lastVisitedAt : Int
  visitCount : Int
deriving DecidableEq, Repr

/-- The tables of the profile database that hold browsing data. -/
structure BrowsingData where
  cookies : List CookieRecord := []
  browsingHistory : List HistoryVisitRecord := []
deriving DecidableEq, Repr

def CookieUpdate.primaryKey (cookie : CookieUpdate) : String × String × String × String :=
  (cookie.profile, cookie.domain, cookie.path, cookie.name)

def cookieKey (record : CookieRecord) : String × String × String × String :=
  record.toCookieUpdate.primaryKey

def historyKey (record : HistoryVisitRecord) : String × String := (record.profile, record.url)

end Tables

namespace BrowsingData

section Operations

def upsertCookie (cookie : CookieUpdate) (now : Int) (data : BrowsingData) : BrowsingData :=
  { data with
    cookies := Rows.upsert cookieKey
      (fun existing excluded =>
        { existing with
          value := excluded.value
          expiresAt := excluded.expiresAt
          isSecure := excluded.isSecure
          isHttpOnly := excluded.isHttpOnly
          sameSite := excluded.sameSite
          updatedAt := excluded.updatedAt })
      { cookie with createdAt := now, updatedAt := now } data.cookies }

def cookiesForDomain (profile domain : String) (data : BrowsingData) : List CookieRecord :=
  (data.cookies.filter fun record => record.profile == profile && record.domain == domain)
    |>.insertionSort fun left right => toLex (left.path, left.name) ≤ toLex (right.path, right.name)

def deleteCookie (profile domain path name : String) (data : BrowsingData) : BrowsingData :=
  { data with cookies := Rows.erase cookieKey (profile, domain, path, name) data.cookies }

def recordHistoryVisit (profile url : String) (title : Option String) (now : Int)
    (data : BrowsingData) : BrowsingData :=
  { data with
    browsingHistory := Rows.upsert historyKey
      (fun existing excluded =>
        { existing with
          title := excluded.title.or existing.title
          lastVisitedAt := excluded.lastVisitedAt
          visitCount := existing.visitCount + 1 })
      { profile, url, title, firstVisitedAt := now, lastVisitedAt := now, visitCount := 1 }
      data.browsingHistory }

def updateHistoryTitle (profile url : String) (title : Option String) (now : Int)
    (data : BrowsingData) : BrowsingData :=
  match title.filter fun title => Text.trim title.toList ≠ [] with
  | none => data
  | some title =>
      { data with
        browsingHistory := Rows.upsert historyKey
          (fun existing excluded => { existing with title := excluded.title })
          { profile, url, title := some title, firstVisitedAt := now, lastVisitedAt := now
            visitCount := 1 }
          data.browsingHistory }

end Operations

end BrowsingData

/-- One call of the browser to its browsing data, with the time it is made. -/
inductive BrowsingWrite where
  | upsertCookie (cookie : CookieUpdate) (now : Int)
  | deleteCookie (profile domain path name : String)
  | recordHistoryVisit (profile url : String) (title : Option String) (now : Int)
  | updateHistoryTitle (profile url : String) (title : Option String) (now : Int)
deriving DecidableEq, Repr

namespace BrowsingWrite

def apply (data : BrowsingData) : BrowsingWrite → BrowsingData
  | upsertCookie cookie now => data.upsertCookie cookie now
  | deleteCookie profile domain path name => data.deleteCookie profile domain path name
  | recordHistoryVisit profile url title now => data.recordHistoryVisit profile url title now
  | updateHistoryTitle profile url title now => data.updateHistoryTitle profile url title now

/-- The browsing data after these calls, from an empty database. -/
def run (writes : List BrowsingWrite) : BrowsingData := writes.foldl apply {}

theorem run_append (writes : List BrowsingWrite) (write : BrowsingWrite) :
    run (writes ++ [write]) = apply (run writes) write := by
  rw [run, List.foldl_append, List.foldl_cons, List.foldl_nil, run]

end BrowsingWrite

open BrowsingWrite

section Cookies

def cookieWrite (key : String × String × String × String) :
    BrowsingWrite → Option (StampedWrite CookieUpdate)
  | .upsertCookie cookie now => if cookie.primaryKey = key then some (.put cookie now) else none
  | .deleteCookie profile domain path name =>
      if (profile, domain, path, name) = key then some .remove else none
  | _ => none

/-- The writes to one cookie. -/
def cookieWrites (key : String × String × String × String) (writes : List BrowsingWrite) :
    List (StampedWrite CookieUpdate) :=
  writes.filterMap (cookieWrite key)

def CookieRecord.stamped (record : CookieRecord) : Stamped CookieUpdate where
  value := record.toCookieUpdate
  createdAt := record.createdAt
  updatedAt := record.updatedAt

theorem CookieRecord.stamped_injective : Function.Injective CookieRecord.stamped := by
  rintro ⟨cookie, createdAt, updatedAt⟩ ⟨other, otherCreated, otherUpdated⟩ same
  obtain ⟨rfl, rfl, rfl⟩ := Stamped.mk.inj same
  rfl

theorem uniqueKeys_cookies_run (writes : List BrowsingWrite) :
    Rows.UniqueKeys cookieKey (run writes).cookies := by
  induction writes using List.reverseRecOn with
  | nil => exact List.nodup_nil
  | append_singleton writes write inductionHypothesis =>
      rw [run_append]
      cases write with
      | upsertCookie cookie now =>
          exact Rows.uniqueKeys_upsert (fun existing same => same) inductionHypothesis
      | deleteCookie profile domain path name =>
          exact Rows.uniqueKeys_filter _ inductionHypothesis
      | recordHistoryVisit => exact inductionHypothesis
      | updateHistoryTitle profile url title now =>
          rw [apply, BrowsingData.updateHistoryTitle]
          split <;> exact inductionHypothesis

/-- A cookie is what the writes to it leave. -/
theorem lookup_cookies_run (writes : List BrowsingWrite)
    (key : String × String × String × String) :
    (Rows.lookup cookieKey key (run writes).cookies).map CookieRecord.stamped =
      (cookieWrites key writes).foldl StampedWrite.step none := by
  induction writes using List.reverseRecOn with
  | nil => rfl
  | append_singleton writes write inductionHypothesis =>
      rw [run_append, cookieWrites, List.filterMap_append, List.foldl_append, ← cookieWrites,
        ← inductionHypothesis]
      cases write with
      | upsertCookie cookie now =>
          have written := @StampedWrite.view_lookup_upsert _ _ _ _ cookieKey
            (fun existing excluded : CookieRecord =>
              { existing with
                value := excluded.value
                expiresAt := excluded.expiresAt
                isSecure := excluded.isSecure
                isHttpOnly := excluded.isHttpOnly
                sameSite := excluded.sameSite
                updatedAt := excluded.updatedAt })
            { cookie with createdAt := now, updatedAt := now } CookieRecord.stamped cookie now rfl
            (by
              rintro ⟨⟨profile, domain, path, name, _, _, _, _, _⟩, createdAt, updatedAt⟩ same
              cases cookie
              simp only [cookieKey, CookieUpdate.primaryKey, Prod.mk.injEq] at same
              obtain ⟨rfl, rfl, rfl, rfl⟩ := same
              exact ⟨rfl, rfl⟩)
            key (run writes).cookies
          refine written.trans ?_
          by_cases same : cookie.primaryKey = key
          · simp [cookieKey, cookieWrite, same]
          · simp [cookieKey, cookieWrite, same]
      | deleteCookie profile domain path name =>
          rw [apply, BrowsingData.deleteCookie]
          by_cases same : (profile, domain, path, name) = key
          · rw [same, Rows.lookup_erase_self]
            simp [cookieWrite, same, StampedWrite.step]
          · rw [Rows.lookup_erase_of_ne same]
            simp [cookieWrite, same]
      | recordHistoryVisit => rfl
      | updateHistoryTitle profile url title now =>
          rw [apply, BrowsingData.updateHistoryTitle]
          split <;> rfl

/-- The cookies of a domain, whatever was written before, are those whose last write is no
removal, each with its last value and created by the first write since it was last removed. They
stand in the order of their paths and names. -/
theorem cookiesForDomain_run (writes : List BrowsingWrite) (profile domain : String) :
    ((run writes).cookiesForDomain profile domain).Pairwise
        (fun left right => toLex (left.path, left.name) < toLex (right.path, right.name)) ∧
      ∀ record, record ∈ (run writes).cookiesForDomain profile domain ↔
        record.profile = profile ∧ record.domain = domain ∧
          ∃ kept, StampedWrite.EndsWith (cookieWrites (cookieKey record) writes) kept ∧
            kept.head?.map Prod.snd = some record.createdAt ∧
            kept.getLast? = some (record.toCookieUpdate, record.updatedAt) := by
  have unique := uniqueKeys_cookies_run writes
  have ofDomain : ∀ record, record ∈ (run writes).cookiesForDomain profile domain ↔
      record ∈ (run writes).cookies ∧ record.profile = profile ∧ record.domain = domain := by
    intro record
    rw [BrowsingData.cookiesForDomain, List.mem_insertionSort, List.mem_filter, Bool.and_eq_true,
      beq_iff_eq, beq_iff_eq]
  constructor
  · have sorted := List.pairwise_insertionSort
      (fun left right : CookieRecord =>
        toLex (left.path, left.name) ≤ toLex (right.path, right.name))
      ((run writes).cookies.filter fun record =>
        record.profile == profile && record.domain == domain)
    have distinct : ((run writes).cookiesForDomain profile domain).Pairwise
        fun left right => cookieKey left ≠ cookieKey right :=
      List.pairwise_map.mp (((List.perm_insertionSort _ _).map cookieKey).nodup_iff.mpr
        (Rows.uniqueKeys_filter _ unique))
    refine (sorted.and distinct).imp_of_mem fun {left right} isLeft isRight both => ?_
    refine lt_of_le_of_ne both.1 fun same => both.2 ?_
    obtain ⟨-, leftProfile, leftDomain⟩ := (ofDomain left).mp isLeft
    obtain ⟨-, rightProfile, rightDomain⟩ := (ofDomain right).mp isRight
    obtain ⟨samePath, sameName⟩ := Prod.mk.inj (toLex_inj.mp same)
    simp only [cookieKey, CookieUpdate.primaryKey, leftProfile, leftDomain, rightProfile,
      rightDomain, samePath, sameName]
  · intro record
    rw [ofDomain, and_comm, and_assoc]
    refine and_congr_right fun _ => and_congr_right fun _ => ?_
    have stored := @StampedWrite.foldl_step_eq_some_iff _
      (cookieWrites (cookieKey record) writes) record.stamped
    rw [← lookup_cookies_run, Option.map_eq_some_iff] at stored
    rw [CookieRecord.stamped] at stored
    rw [← stored]
    constructor
    · intro membership
      exact ⟨record, (Rows.lookup_eq_some_iff unique).mpr ⟨membership, rfl⟩, rfl⟩
    · rintro ⟨found, isFound, same⟩
      obtain rfl := CookieRecord.stamped_injective same
      exact (Rows.mem_of_lookup isFound).1

end Cookies

section History

/-- What a call tells the history about an address. -/
structure HistoryEvent where
  title : Option String
  now : Int
  isVisit : Bool
deriving DecidableEq, Repr

def historyEvent (key : String × String) : BrowsingWrite → Option HistoryEvent
  | .recordHistoryVisit profile url title now =>
      if (profile, url) = key then some { title, now, isVisit := true } else none
  | .updateHistoryTitle profile url title now =>
      if (profile, url) = key then
        (title.filter fun title => Text.trim title.toList ≠ []).map fun title =>
          { title := some title, now, isVisit := false }
      else none
  | _ => none

/-- What the calls tell about one address, blank titles apart. -/
def historyEvents (key : String × String) (writes : List BrowsingWrite) : List HistoryEvent :=
  writes.filterMap (historyEvent key)

/-- The record that these events leave: the first one makes it, later visits are counted. -/
def historyRecord (key : String × String) : List HistoryEvent → Option HistoryVisitRecord
  | [] => none
  | first :: rest =>
      let later := rest.filter (·.isVisit)
      some
        { profile := key.1
          url := key.2
          title := ((first :: rest).filterMap (·.title)).getLast?
          firstVisitedAt := first.now
          lastVisitedAt := (later.getLast?.map (·.now)).getD first.now
          visitCount := 1 + later.length }

variable {key : String × String} {events : List HistoryEvent} {event : HistoryEvent}

/-- A visit changes the record that the events before have left. -/
theorem historyRecord_append_visit (isVisit : event.isVisit = true) :
    historyRecord key (events ++ [event]) =
      some (((historyRecord key events).map fun existing =>
        { existing with
          title := event.title.or existing.title
          lastVisitedAt := event.now
          visitCount := existing.visitCount + 1 }).getD
        { profile := key.1, url := key.2, title := event.title, firstVisitedAt := event.now
          lastVisitedAt := event.now, visitCount := 1 }) := by
  cases events with
  | nil => cases isTitle : event.title <;> simp [historyRecord, isTitle]
  | cons first rest =>
      have later : (rest ++ [event]).filter (·.isVisit) = rest.filter (·.isVisit) ++ [event] := by
        rw [List.filter_append, List.filter_singleton, isVisit]
        rfl
      rw [List.cons_append, historyRecord, historyRecord, later, ← List.cons_append,
        List.filterMap_append]
      have counted : (1 : Int) + ((rest.filter (·.isVisit)).length + 1) =
          1 + (rest.filter (·.isVisit)).length + 1 := by omega
      cases isTitle : event.title <;>
        simp [isTitle, List.filterMap_cons, List.filterMap_nil, counted]

/-- A title changes the record that the events before have left, and counts as a visit if
there is none. -/
theorem historyRecord_append_title {title : String} (isTitle : event.title = some title)
    (noVisit : event.isVisit = false) :
    historyRecord key (events ++ [event]) =
      some (((historyRecord key events).map fun existing =>
        { existing with title := some title }).getD
        { profile := key.1, url := key.2, title := some title, firstVisitedAt := event.now
          lastVisitedAt := event.now, visitCount := 1 }) := by
  cases events with
  | nil => simp [historyRecord, isTitle]
  | cons first rest =>
      have later : (rest ++ [event]).filter (·.isVisit) = rest.filter (·.isVisit) := by
        rw [List.filter_append, List.filter_singleton, noVisit]
        exact List.append_nil _
      rw [List.cons_append, historyRecord, historyRecord, later, ← List.cons_append,
        List.filterMap_append]
      simp [isTitle, List.filterMap_cons, List.filterMap_nil]

theorem historyEvents_append (writes : List BrowsingWrite) (write : BrowsingWrite) :
    historyEvents key (writes ++ [write]) =
      historyEvents key writes ++ (historyEvent key write).toList := by
  rw [historyEvents, List.filterMap_append, ← historyEvents]
  cases told : historyEvent key write <;> simp [told]

/-- A history record is what was told about its address. -/
theorem lookup_browsingHistory_run (writes : List BrowsingWrite) (key : String × String) :
    Rows.lookup historyKey key (run writes).browsingHistory =
      historyRecord key (historyEvents key writes) := by
  induction writes using List.reverseRecOn with
  | nil => rfl
  | append_singleton writes write inductionHypothesis =>
      rw [run_append, historyEvents_append]
      cases write with
      | recordHistoryVisit profile url title now =>
          rw [apply, BrowsingData.recordHistoryVisit,
            Rows.lookup_upsert fun existing same => same, inductionHypothesis, historyEvent]
          change (if (profile, url) = key then _ else _) = _
          by_cases same : (profile, url) = key
          · obtain rfl := same
            rw [if_pos rfl, if_pos rfl]
            exact (@historyRecord_append_visit _ _ ⟨title, now, true⟩ rfl).symm
          · rw [if_neg same, if_neg same]
            exact congrArg (historyRecord key) (List.append_nil _).symm
      | updateHistoryTitle profile url title now =>
          rw [apply, BrowsingData.updateHistoryTitle, historyEvent]
          cases title.filter fun title => Text.trim title.toList ≠ [] with
          | none =>
              rw [inductionHypothesis, Option.map_none, ite_self]
              exact congrArg (historyRecord key) (List.append_nil _).symm
          | some title =>
              rw [Rows.lookup_upsert fun existing same => same, inductionHypothesis]
              change (if (profile, url) = key then _ else _) = _
              by_cases same : (profile, url) = key
              · obtain rfl := same
                rw [if_pos rfl, if_pos rfl]
                exact (@historyRecord_append_title _ _ ⟨some title, now, false⟩ _ rfl rfl).symm
              · rw [if_neg same, if_neg same]
                exact congrArg (historyRecord key) (List.append_nil _).symm
      | upsertCookie | deleteCookie =>
          exact inductionHypothesis.trans
            (congrArg (historyRecord key) (List.append_nil _).symm)

/-- A history record is what was told about its address. Its count is the number of the visits,
and one more exactly if the address was given a title before its first visit. -/
theorem browsingHistory_run (writes : List BrowsingWrite) (key : String × String) :
    Rows.lookup historyKey key (run writes).browsingHistory =
        historyRecord key (historyEvents key writes) ∧
      (Rows.lookup historyKey key (run writes).browsingHistory).map (·.visitCount) =
        (historyEvents key writes).head?.map fun first =>
          ((historyEvents key writes).countP (·.isVisit) : Int) +
            if first.isVisit then 0 else 1 := by
  have stored := lookup_browsingHistory_run writes key
  refine ⟨stored, ?_⟩
  rw [stored]
  cases historyEvents key writes with
  | nil => rfl
  | cons first rest =>
      rw [historyRecord, Option.map_some, List.head?_cons, Option.map_some, List.countP_cons,
        List.countP_eq_length_filter, Option.some.injEq]
      cases first.isVisit <;> simp <;> omega

end History

end Slate.Storage
