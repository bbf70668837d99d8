import Mathlib.Data.List.DropRight
import TemplateServer.Proofs.Document.Store

/-!
The store after any history of calls. Main statement: what is open at an address is told by the calls
for this address since it was last closed. The first of them that brings a document opens it, and
among that document and the changes after it the one with the highest version is stored, the last
such one if there are several.
-/

namespace TemplateServer.Store

inductive Call where
  | insert (document : Document)
  | change (document : Document)
  | erase (uri : Uri)
deriving DecidableEq

namespace Call

def brought? (uri : Uri) : Call → Option Document
  | .insert document => if document.uri = uri then some document else none
  | .change document => if document.uri = uri then some document else none
  | .erase _ => none

def changed? (uri : Uri) : Call → Option Document
  | .insert _ => none
  | .change document => if document.uri = uri then some document else none
  | .erase _ => none

end Call

def perform (store : Store) : Call → Store
  | .insert document => (store.insertNew document).2
  | .change document => (store.change document).2
  | .erase uri => (store.erase uri).2

def after (calls : List Call) : Store :=
  calls.foldl perform empty

/-- The calls since the document at an address was last closed. -/
def sinceErased (uri : Uri) (calls : List Call) : List Call :=
  calls.rtakeWhile fun call => call ≠ .erase uri

/-- Whether a document is the last one with the highest version. -/
structure Prevails (documents : List Document) (stored : Document) : Prop where
  highest : ∀ document ∈ documents, document.version ≤ stored.version
  last : (documents.filter fun document => document.version = stored.version).getLast? = some stored

variable {store : Store} {document stored : Document} {documents : List Document} {uri : Uri}
  {call : Call} {calls : List Call}

/-! ### The document that prevails -/

theorem prevails_singleton (document : Document) : Prevails [document] document := by
  constructor
  · intro other member
    obtain rfl := List.mem_singleton.mp member
    exact Int.le_refl _
  · simp

theorem Prevails.append_lower (prevails : Prevails documents stored)
    (lower : document.version < stored.version) : Prevails (documents ++ [document]) stored := by
  have different : ¬document.version = stored.version := by omega
  constructor
  · intro other member
    rcases List.mem_append.mp member with earlier | added
    · exact prevails.highest other earlier
    · obtain rfl := List.mem_singleton.mp added
      omega
  · rw [List.filter_append, List.filter_cons_of_neg (by simpa using different), List.filter_nil,
      List.append_nil]
    exact prevails.last

theorem Prevails.append_higher (prevails : Prevails documents stored)
    (notLower : stored.version ≤ document.version) :
    Prevails (documents ++ [document]) document := by
  constructor
  · intro other member
    rcases List.mem_append.mp member with earlier | added
    · have bound := prevails.highest other earlier
      omega
    · obtain rfl := List.mem_singleton.mp added
      exact Int.le_refl _
  · rw [List.filter_append, List.filter_cons_of_pos (by simp), List.filter_nil,
      List.getLast?_concat]

/-! ### One call -/

theorem brought?_eq_some :
    call.brought? uri = some document ↔
      document.uri = uri ∧ (call = .insert document ∨ call = .change document) := by
  cases call with
  | insert other =>
      simp only [Call.brought?, Option.ite_none_right_eq_some, Option.some.injEq, Call.insert.injEq,
        reduceCtorEq, or_false]
      exact and_congr_left fun same => by rw [same]
  | change other =>
      simp only [Call.brought?, Option.ite_none_right_eq_some, Option.some.injEq, Call.change.injEq,
        reduceCtorEq, false_or]
      exact and_congr_left fun same => by rw [same]
  | erase other => simp [Call.brought?]

theorem find?_perform_of_brought (absent : store.find? uri = none)
    (brought : call.brought? uri = some document) :
    (store.perform call).find? uri = some document := by
  obtain ⟨owned, same⟩ := brought?_eq_some.mp brought
  rcases same with rfl | rfl
  · change (store.insertNew document).2.find? uri = _
    rw [find?_insertNew, if_pos owned, absent]
    rfl
  · have fresh : (store.change document).1 ≠ .stale := by
      rw [ne_eq, change_eq_stale_iff, owned, absent]
      simp
    change (store.change document).2.find? uri = _
    rw [find?_change, if_pos ⟨owned, fresh⟩]

theorem find?_perform_of_unbrought (absent : store.find? uri = none)
    (unbrought : call.brought? uri = none) : (store.perform call).find? uri = none := by
  cases call with
  | insert other =>
      have foreign : other.uri ≠ uri := by simpa [Call.brought?] using unbrought
      change (store.insertNew other).2.find? uri = none
      rw [find?_insertNew, if_neg foreign, absent]
  | change other =>
      have foreign : other.uri ≠ uri := by simpa [Call.brought?] using unbrought
      change (store.change other).2.find? uri = none
      rw [find?_change, if_neg fun both => foreign both.1, absent]
  | erase other =>
      change (store.erase other).2.find? uri = none
      rw [find?_erase, absent, ite_self]

/-- A change takes the place of the stored document unless its version is lower, and no other call
but the closing one does anything to it. -/
theorem Prevails.step (prevails : Prevails documents stored)
    (found : store.find? uri = some stored) (kept : call ≠ .erase uri) :
    ∃ next, (store.perform call).find? uri = some next ∧
      Prevails (documents ++ (call.changed? uri).toList) next := by
  cases call with
  | insert other =>
      refine ⟨stored, ?_, by simpa [Call.changed?] using prevails⟩
      change (store.insertNew other).2.find? uri = _
      rw [find?_insertNew, found]
      exact ite_self _
  | change other =>
      change ∃ next, (store.change other).2.find? uri = some next ∧ _
      rw [find?_change]
      by_cases owned : other.uri = uri
      · have outcome : (store.change other).1 = .stale ↔ other.version < stored.version := by
          rw [change_eq_stale_iff, owned, found]
          simp
        simp only [Call.changed?, if_pos owned, Option.toList_some]
        by_cases lower : other.version < stored.version
        · refine ⟨stored, ?_, prevails.append_lower lower⟩
          rw [if_neg fun both => both.2 (outcome.mpr lower), found]
        · refine ⟨other, ?_, prevails.append_higher (Int.not_lt.mp lower)⟩
          rw [if_pos ⟨owned, fun stale => lower (outcome.mp stale)⟩]
      · refine ⟨stored, ?_, by simpa [Call.changed?, owned] using prevails⟩
        rw [if_neg fun both => owned both.1, found]
  | erase other =>
      have foreign : other ≠ uri := fun same => kept (by rw [same])
      refine ⟨stored, ?_, by simpa [Call.changed?] using prevails⟩
      change (store.erase other).2.find? uri = _
      rw [find?_erase, if_neg foreign, found]

/-! ### Many calls -/

theorem find?_foldl_of_unbrought (absent : store.find? uri = none)
    (unbrought : ∀ call ∈ calls, call.brought? uri = none) :
    (calls.foldl perform store).find? uri = none := by
  induction calls generalizing store with
  | nil => exact absent
  | cons call calls ih =>
      apply ih
      · exact find?_perform_of_unbrought absent (unbrought call List.mem_cons_self)
      · exact fun other member => unbrought other (List.mem_cons_of_mem call member)

theorem Prevails.run (prevails : Prevails documents stored)
    (found : store.find? uri = some stored) (kept : ∀ call ∈ calls, call ≠ .erase uri) :
    ∃ next, (calls.foldl perform store).find? uri = some next ∧
      Prevails (documents ++ calls.filterMap (Call.changed? uri)) next := by
  induction calls generalizing store documents stored with
  | nil => exact ⟨stored, found, by simpa using prevails⟩
  | cons call calls ih =>
      obtain ⟨middle, now, prevailing⟩ := prevails.step found (kept call List.mem_cons_self)
      obtain ⟨next, later, final⟩ :=
        ih prevailing now fun other member => kept other (List.mem_cons_of_mem call member)
      refine ⟨next, later, ?_⟩
      have joined : documents ++ (call :: calls).filterMap (Call.changed? uri) =
          documents ++ (call.changed? uri).toList ++ calls.filterMap (Call.changed? uri) := by
        rw [List.append_assoc]
        cases same : call.changed? uri with
        | none => rw [List.filterMap_cons_none same, Option.toList_none, List.nil_append]
        | some document => rw [List.filterMap_cons_some same, Option.toList_some, List.singleton_append]
      rw [joined]
      exact final

/-- Nothing is open at an address right after it was closed, or before any call. -/
theorem exists_before_sinceErased (uri : Uri) (calls : List Call) :
    ∃ before, calls = before ++ sinceErased uri calls ∧ (after before).find? uri = none := by
  refine ⟨calls.rdropWhile fun call => call ≠ .erase uri,
    List.rdropWhile_append_rtakeWhile.symm, ?_⟩
  by_cases empty : (calls.rdropWhile fun call => call ≠ .erase uri) = []
  · rw [empty]
    rfl
  · have last := List.rdropWhile_last_not _ calls empty
    rw [decide_eq_true_eq, not_not] at last
    rw [← List.dropLast_append_getLast empty, last]
    unfold after
    rw [List.foldl_append]
    change (Store.erase uri _).2.find? uri = none
    rw [find?_erase, if_pos rfl]

theorem not_erase_of_mem_sinceErased (member : call ∈ sinceErased uri calls) :
    call ≠ .erase uri := by
  have kept := List.mem_rtakeWhile_imp member
  exact of_decide_eq_true kept

/-- Some call brings a document first, or none does. -/
theorem unbrought_or_first (uri : Uri) (calls : List Call) :
    (∀ call ∈ calls, call.brought? uri = none) ∨
      ∃ earlier first later document, calls = earlier ++ first :: later ∧
        (∀ call ∈ earlier, call.brought? uri = none) ∧ first.brought? uri = some document := by
  induction calls with
  | nil => exact Or.inl fun _ => nofun
  | cons call calls ih =>
      cases brought : call.brought? uri with
      | some document =>
          exact Or.inr ⟨[], call, calls, document, rfl, fun _ => nofun, brought⟩
      | none =>
          rcases ih with none | ⟨earlier, first, later, document, parts, unbrought, opens⟩
          · exact Or.inl (List.forall_mem_cons.mpr ⟨brought, none⟩)
          · exact Or.inr ⟨call :: earlier, first, later, document, by rw [parts, List.cons_append],
              List.forall_mem_cons.mpr ⟨brought, unbrought⟩, opens⟩

theorem exists_prevailing {earlier later : List Call} {first : Call}
    (parts : sinceErased uri calls = earlier ++ first :: later)
    (unbrought : ∀ call ∈ earlier, call.brought? uri = none)
    (brought : first.brought? uri = some document) :
    ∃ stored, (after calls).find? uri = some stored ∧
      Prevails (document :: later.filterMap (Call.changed? uri)) stored := by
  obtain ⟨before, whole, closed⟩ := exists_before_sinceErased uri calls
  have absent := find?_foldl_of_unbrought closed unbrought
  have opened := find?_perform_of_brought absent brought
  have kept : ∀ call ∈ later, call ≠ .erase uri := by
    intro call member
    have recent : call ∈ sinceErased uri calls := by
      rw [parts]
      exact List.mem_append_right earlier (List.mem_cons_of_mem first member)
    exact not_erase_of_mem_sinceErased recent
  obtain ⟨stored, found, prevails⟩ := (prevails_singleton document).run opened kept
  refine ⟨stored, ?_, prevails⟩
  rw [whole, parts]
  unfold after
  rw [List.foldl_append, List.foldl_append]
  exact found

theorem find?_after_eq_none :
    (after calls).find? uri = none ↔
      ∀ call ∈ sinceErased uri calls, call.brought? uri = none := by
  constructor
  · intro absent
    rcases unbrought_or_first uri (sinceErased uri calls) with
      none | ⟨earlier, first, later, document, parts, unbrought, brought⟩
    · exact none
    · obtain ⟨stored, found, _⟩ := exists_prevailing parts unbrought brought
      rw [absent] at found
      cases found
  · intro unbrought
    obtain ⟨before, whole, closed⟩ := exists_before_sinceErased uri calls
    rw [whole]
    unfold after
    rw [List.foldl_append]
    exact find?_foldl_of_unbrought closed unbrought

/-! ### How many documents are open -/

def Distinct (store : Store) : Prop :=
  (store.documents.map Document.uri).Nodup

theorem mem_uris_iff : uri ∈ store.documents.map Document.uri ↔ (store.find? uri).isSome := by
  unfold find?
  rw [List.find?_isSome, List.mem_map]
  simp only [decide_eq_true_eq]

theorem Distinct.append (distinct : store.Distinct) (absent : store.find? document.uri = none) :
    Distinct ⟨store.documents ++ [document]⟩ := by
  unfold Distinct
  rw [List.map_append, List.map_singleton, List.nodup_append]
  refine ⟨distinct, List.pairwise_singleton _ _, ?_⟩
  intro uri listed other added same
  rw [List.mem_singleton.mp added] at same
  rw [same, mem_uris_iff, absent] at listed
  cases listed

theorem Distinct.replace (distinct : store.Distinct) (document : Document) :
    (store.replace document).Distinct := by
  have same : (store.replace document).documents.map Document.uri =
      store.documents.map Document.uri := by
    unfold Store.replace
    rw [List.map_map]
    apply List.map_congr_left
    intro other _
    change (if other.uri = document.uri then document else other).uri = other.uri
    by_cases owned : other.uri = document.uri
    · rw [if_pos owned, owned]
    · rw [if_neg owned]
  unfold Distinct
  rw [same]
  exact distinct

theorem Distinct.step (distinct : store.Distinct) (call : Call) :
    (store.perform call).Distinct := by
  cases call with
  | insert document =>
      change (store.insertNew document).2.Distinct
      unfold insertNew
      cases found : store.find? document.uri with
      | some old => exact distinct
      | none => exact distinct.append found
  | change document =>
      change (store.change document).2.Distinct
      unfold change
      cases found : store.find? document.uri with
      | some old =>
          by_cases lower : document.version < old.version
          · simp only [if_pos lower]
            exact distinct
          · simp only [if_neg lower]
            exact distinct.replace document
      | none => exact distinct.append found
  | erase uri => exact (List.filter_sublist.map Document.uri).nodup distinct

theorem distinct_after (calls : List Call) : (after calls).Distinct := by
  have each {store : Store} (distinct : store.Distinct) : (calls.foldl perform store).Distinct := by
    induction calls generalizing store with
    | nil => exact distinct
    | cons call calls ih => exact ih (distinct.step call)
  exact each List.nodup_nil

/-! ### What a change is told -/

theorem change_eq_opened_iff : (store.change document).1 = .opened ↔ store.find? document.uri = none := by
  unfold change
  cases store.find? document.uri with
  | none => simp
  | some old =>
      by_cases lower : document.version < old.version
      · simp [lower]
      · simp [lower]

theorem change_eq_updated_iff :
    (store.change document).1 = .updated ↔
      ∃ old, store.find? document.uri = some old ∧ old.version ≤ document.version := by
  unfold change
  cases store.find? document.uri with
  | none => simp
  | some old =>
      by_cases lower : document.version < old.version
      · simp [lower]
      · simp [lower, Int.not_lt.mp lower]

theorem change_of_stale (stale : (store.change document).1 = .stale) :
    (store.change document).2 = store := by
  obtain ⟨old, found, lower⟩ := change_eq_stale_iff.mp stale
  unfold change
  rw [found]
  simp only [if_pos lower]

/-! ### The main statement -/

/-- The store after any history of calls, address by address. -/
theorem after_told_by_history (calls : List Call) :
    (∀ uri,
      ((after calls).find? uri = none ↔
        ∀ call ∈ sinceErased uri calls, call.brought? uri = none) ∧
      ∀ earlier first later document, sinceErased uri calls = earlier ++ first :: later →
        (∀ call ∈ earlier, call.brought? uri = none) → first.brought? uri = some document →
        ∃ stored, (after calls).find? uri = some stored ∧ stored.uri = uri ∧
          Prevails (document :: later.filterMap (Call.changed? uri)) stored) ∧
    (∀ document,
      (((after calls).change document).1 = .opened ↔ (after calls).find? document.uri = none) ∧
      (((after calls).change document).1 = .stale ↔
        ∃ old, (after calls).find? document.uri = some old ∧ document.version < old.version) ∧
      (((after calls).change document).1 = .stale →
        ((after calls).change document).2 = after calls) ∧
      (((after calls).change document).1 = .updated ↔
        ∃ old, (after calls).find? document.uri = some old ∧ old.version ≤ document.version)) ∧
    ∃ uris : List Uri, uris.Nodup ∧
      (∀ uri, uri ∈ uris ↔ ((after calls).find? uri).isSome) ∧ (after calls).size = uris.length := by
  refine ⟨?_, ?_, (after calls).documents.map Document.uri, distinct_after calls, ?_, ?_⟩
  · intro uri
    refine ⟨find?_after_eq_none, ?_⟩
    intro earlier first later document parts unbrought brought
    obtain ⟨stored, found, prevails⟩ := exists_prevailing parts unbrought brought
    exact ⟨stored, found, uri_of_find? found, prevails⟩
  · intro document
    exact ⟨change_eq_opened_iff, change_eq_stale_iff, change_of_stale, change_eq_updated_iff⟩
  · exact fun uri => mem_uris_iff
  · exact List.length_map _ |>.symm

end TemplateServer.Store
