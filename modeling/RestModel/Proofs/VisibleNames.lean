import RestModel.Proofs.Acceptance
import RestModel.Proofs.Identifiers

/-!
# Visible names — nothing generated is called by a blank

A name comes from one of four places: the path, the fallback, the settings'
name for a verb, or the verb's stock name. The check of the settings sees to
two of them. A path is no name unless something of it is left, which is then
unmarked and so no blank, and the stock names are known. So no resource that is
built with checked settings has a blank name in it (`Settings.visible_names`).
-/

namespace RestModel

namespace Settings

variable {settings : Settings} {path name text : String}
  {entry : PathEntry} {resource : Resource}

/-! ## Where names come from -/

/-- The name that a path has of its own is visible. -/
theorem visible_of_className (h : Naming.className? path = some name) : Visible name := by
  have hne : name.toList ≠ [] := by
    rw [ne_eq, String.toList_eq_nil_iff]
    exact Naming.ne_empty_of_className? h
  obtain ⟨c, hc⟩ := List.exists_mem_of_ne_nil _ hne
  exact ⟨c, hc, (Naming.unmarked_of_mem_className h hc).visible⟩

/-- So is the name of any path, if the fallback is. -/
theorem visible_of_name (hfallback : ∀ name, settings.fallback = some name → Visible name)
    (h : settings.name? path = some name) : Visible name := by
  rw [name?, Option.or_eq_some_iff] at h
  rcases h with hown | ⟨-, hset⟩
  · exact visible_of_className hown
  · exact hfallback name hset

theorem visible_stockMethodName (verb : Verb) : Visible verb.stockMethodName := by
  rw [← isBlank_eq_false_iff]
  cases verb <;> decide +kernel

/-- What a verb is called is visible, be it configured or stock. -/
theorem Calls.visible {verb : Verb} (hnames : ValidNames settings.methodNames)
    (h : settings.Calls verb name) : Visible name := by
  cases h with
  | configured hmem => exact isBlank_eq_false_iff.1 (hnames.visible _ hmem)
  | stock => exact visible_stockMethodName verb

theorem visible_methodName (hnames : ValidNames settings.methodNames) (verb : Verb) :
    Visible (settings.methodName verb) :=
  Calls.visible hnames ((methodName_eq_iff_calls hnames).1 rfl)

/-- A mark in front hides nothing. -/
theorem Visible.append_left (mark : String) (h : Visible name) : Visible (mark ++ name) := by
  obtain ⟨c, hc, hvisible⟩ := h
  exact ⟨c, by simp [hc], hvisible⟩

/-! ## Resources -/

/-- Settings that are read from a text are checked. -/
theorem check_of_ofText (h : ofText text = .ok settings) : settings.check = .ok () := by
  rw [ofText] at h
  split at h
  · cases h
  · split at h
    · next hcheck => cases h; exact hcheck
    · cases h

/-- **No name of a resource is blank.** If the settings that a text gives are
accepted, and the stock pipeline makes a resource with them, then its class, its
interface and all of its methods have a visible character in their names. -/
theorem visible_names (hsettings : ofText text = .ok settings)
    (hresource : (settings.build entry).outcome = .ok resource) :
    Visible resource.className ∧ Visible resource.interfaceName ∧
      ∀ method ∈ resource.methods, Visible method.name := by
  obtain ⟨hnames, hfallback⟩ := check_eq_ok_iff.1 (check_of_ofText hsettings)
  obtain ⟨name, hname, rfl⟩ := build_eq_ok_iff.1 hresource
  have hclass : Visible name :=
    visible_of_name (fun other hset => isBlank_eq_false_iff.1 (hfallback other hset)) hname
  refine ⟨hclass, hclass.append_left settings.interfaceMark, fun method hmethod => ?_⟩
  obtain ⟨v, -, rfl⟩ := List.mem_map.1 hmethod
  exact visible_methodName hnames v.verb

/-- One method is called as the text says, the other by its stock name. -/
theorem visible_names_sample :
    ofText renamedText = .ok renamed ∧
      (renamed.build ⟨"/users", [⟨.post, []⟩, ⟨.get, []⟩]⟩).outcome =
        .ok ⟨"Users", "IUsers", [⟨"Add", []⟩, ⟨"Get", []⟩]⟩ ∧
      Visible "Users" ∧ Visible "IUsers" ∧ Visible "Add" ∧ Visible "Get" := by
  have hread : (Toml.read? renamedText).bind ofToml? = some renamed := by
    rw [read?_renamedText]
    rfl
  have hsettings : ofText renamedText = .ok renamed := by
    rw [ofText_eq hread]
    rfl
  have hresource : (renamed.build ⟨"/users", [⟨.post, []⟩, ⟨.get, []⟩]⟩).outcome =
      .ok ⟨"Users", "IUsers", [⟨"Add", []⟩, ⟨"Get", []⟩]⟩ := by
    decide +kernel
  obtain ⟨hclass, hinterface, hmethods⟩ := visible_names hsettings hresource
  exact ⟨hsettings, hresource, hclass, hinterface, hmethods ⟨"Add", []⟩ (by simp),
    hmethods ⟨"Get", []⟩ (by simp)⟩

end Settings

end RestModel
