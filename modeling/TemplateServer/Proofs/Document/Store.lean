import TemplateServer.Document.Store

/-!
What the open documents are after a call on the store, address by address.
-/

namespace TemplateServer.Store

variable {store : Store} {document : Document} {uri : Uri}

theorem uri_of_find? (found : store.find? uri = some document) : document.uri = uri := by
  have matched := List.find?_some found
  exact of_decide_eq_true matched

theorem find?_append (documents : List Document) (document : Document) (uri : Uri) :
    Store.find? ⟨documents ++ [document]⟩ uri =
      (Store.find? ⟨documents⟩ uri).or (if document.uri = uri then some document else none) := by
  unfold find?
  rw [List.find?_append]
  by_cases owned : document.uri = uri
  · simp [owned]
  · simp [owned]

theorem find?_insertNew (document : Document) (store : Store) (uri : Uri) :
    (store.insertNew document).2.find? uri =
      if document.uri = uri then some ((store.find? uri).getD document) else store.find? uri := by
  unfold insertNew
  by_cases owned : document.uri = uri
  · rw [if_pos owned, ← owned]
    cases found : store.find? document.uri with
    | some old =>
        simp only [Option.getD_some]
        exact found
    | none =>
        simp only [Option.getD_none]
        rw [find?_append, found, if_pos rfl]
        rfl
  · rw [if_neg owned]
    cases found : store.find? document.uri with
    | some old => rfl
    | none =>
        simp only
        rw [find?_append, if_neg owned, Option.or_none]

/-- What a call returns depends on the document at its address only. -/
theorem insertNew_congr {other : Store} (same : other.find? document.uri = store.find? document.uri) :
    (other.insertNew document).1 = (store.insertNew document).1 := by
  unfold insertNew
  rw [same]
  cases store.find? document.uri with
  | some old => rfl
  | none => rfl

theorem change_congr {other : Store} (same : other.find? document.uri = store.find? document.uri) :
    (other.change document).1 = (store.change document).1 := by
  unfold change
  rw [same]
  cases store.find? document.uri with
  | none => rfl
  | some old =>
      by_cases lower : document.version < old.version
      · simp only [if_pos lower]
      · simp only [if_neg lower]

theorem find?_replace (document : Document) (store : Store) (uri : Uri) :
    (store.replace document).find? uri =
      if document.uri = uri then (store.find? uri).map fun _ => document else store.find? uri := by
  obtain ⟨documents⟩ := store
  induction documents with
  | nil => simp [replace, find?]
  | cons first rest ih =>
      unfold replace find? at ih ⊢
      rw [List.map_cons, List.find?_cons, List.find?_cons, ih]
      by_cases same : first.uri = document.uri
      · rw [if_pos same, same]
        by_cases owned : document.uri = uri
        · simp [owned]
        · simp [owned]
      · rw [if_neg same]
        by_cases owned : first.uri = uri
        · have other : document.uri ≠ uri := fun also => same (owned.trans also.symm)
          simp [owned, other]
        · simp [owned]

/-- A change is stale if the open document has a higher version. -/
theorem change_eq_stale_iff :
    (store.change document).1 = .stale ↔
      ∃ old, store.find? document.uri = some old ∧ document.version < old.version := by
  unfold change
  cases found : store.find? document.uri with
  | none => simp
  | some old =>
      by_cases lower : document.version < old.version
      · simp [lower]
      · simp [lower]

theorem find?_change (document : Document) (store : Store) (uri : Uri) :
    (store.change document).2.find? uri =
      if document.uri = uri ∧ (store.change document).1 ≠ .stale then some document
      else store.find? uri := by
  unfold change
  cases found : store.find? document.uri with
  | none =>
      simp only
      rw [find?_append]
      by_cases owned : document.uri = uri
      · subst owned
        change (store.find? document.uri).or _ = _
        simp [found]
      · simp [owned]
  | some old =>
      by_cases lower : document.version < old.version
      · simp [lower]
      · simp only [lower, if_false]
        rw [find?_replace]
        by_cases owned : document.uri = uri
        · subst owned
          simp [found]
        · simp [owned]

theorem find?_erase (other : Uri) (store : Store) (uri : Uri) :
    (store.erase other).2.find? uri = if other = uri then none else store.find? uri := by
  unfold erase find?
  rw [List.find?_filter]
  by_cases owned : other = uri
  · rw [if_pos owned, List.find?_eq_none]
    intro document _
    simp [owned]
  · rw [if_neg owned]
    congr
    funext document
    by_cases same : document.uri = uri
    · simp [same, Ne.symm owned]
    · simp [same]

end TemplateServer.Store
