import LineShell.Proofs.FileSystem.Tree
import LineShell.Proofs.Text.Order
import LineShell.Shell.Registry
import Mathlib.Data.List.Nodup
import Mathlib.Tactic.Common

/-!
# What a configuration registers

An application that is registered under a name which is taken replaces the one that has it.  So a
mark could put the tolerant form of a builtin in the place of another builtin, whose failures
would then go unnoticed.  No mark does.

**Names.**  No builtin has a name that ends in the name of another one (`Builtin.eq_of_suffix`).
So a name with a mark before it is not that of a builtin, and tells which builtin is meant.

**Registrations.**  `AppsConfig.registrations` lists what is registered, in order.  The names are
all different, so each of them is free when its turn comes, and the registry holds the list as it
is (`Registry.apps_ofConfig`).
-/

namespace LineShell

/-! ## Names -/

namespace Builtin

lemma mem_all (b : Builtin) : b ∈ all := by
  cases b <;> decide

lemma nodup_all : all.Nodup := by decide

/-- **No name ends in another one.** -/
lemma eq_of_suffix {b b' : Builtin} (h : b.name <:+ b'.name) : b = b' := by
  have hall : ∀ b ∈ all, ∀ b' ∈ all, b.name <:+ b'.name → b = b' := by decide
  exact hall b b.mem_all b' b'.mem_all h

lemma name_injective : Function.Injective name := by
  intro b b' h
  exact eq_of_suffix (h ▸ List.suffix_rfl)

/-- A marked name is not the name of a builtin. -/
lemma marked_ne_name {mark : Text} (hmark : mark ≠ []) (b b' : Builtin) :
    mark ++ b.name ≠ b'.name := by
  intro h
  obtain rfl : b = b' := eq_of_suffix ⟨mark, h⟩
  exact hmark (List.append_left_eq_self.mp h)

lemma hasTolerantForm_iff {b : Builtin} : b.hasTolerantForm = true ↔ b ≠ .help := by
  cases b <;> decide

end Builtin

/-! ## Registrations -/

namespace AppsConfig

/-- The builtins that are not disabled. -/
def enabled (config : AppsConfig) : List Builtin :=
  Builtin.all.filter fun b => !config.disabled.contains b.name

/-- What is registered for a builtin: itself, and its tolerant form under the marked name. -/
def forms (config : AppsConfig) (b : Builtin) : List (Text × Application) :=
  (b.name, .plain b) ::
    if b.hasTolerantForm && !config.mark.isEmpty then
      [(config.mark ++ b.name, .tolerant (.plain b))]
    else []

/-- All that is registered, in order. -/
def registrations (config : AppsConfig) : List (Text × Application) :=
  config.enabled.flatMap config.forms

variable {config : AppsConfig} {b b' : Builtin} {name : Text} {app : Application}

lemma mem_enabled : b ∈ config.enabled ↔ b.name ∉ config.disabled := by
  simp [enabled, b.mem_all]

lemma mem_forms : (name, app) ∈ config.forms b ↔
    name = b.name ∧ app = .plain b ∨
      (config.mark ≠ [] ∧ b ≠ .help) ∧ name = config.mark ++ b.name ∧
        app = .tolerant (.plain b) := by
  rw [forms, List.mem_cons, Prod.mk.injEq, ← Builtin.hasTolerantForm_iff]
  cases b.hasTolerantForm <;> simp

lemma mem_registrations : (name, app) ∈ config.registrations ↔
    ∃ b : Builtin, b.name ∉ config.disabled ∧ (name, app) ∈ config.forms b := by
  simp only [registrations, List.mem_flatMap, mem_enabled]

/-- A name tells which builtin is registered under it. -/
lemma eq_of_mem_forms {app' : Application} (h : (name, app) ∈ config.forms b)
    (h' : (name, app') ∈ config.forms b') : (b, app) = (b', app') := by
  rcases mem_forms.mp h with ⟨rfl, rfl⟩ | ⟨⟨hmark, _⟩, rfl, rfl⟩ <;>
    rcases mem_forms.mp h' with ⟨hname, rfl⟩ | ⟨⟨hmark', _⟩, hname, rfl⟩
  · rw [Builtin.name_injective hname]
  · exact absurd hname.symm (Builtin.marked_ne_name hmark' b' b)
  · exact absurd hname (Builtin.marked_ne_name hmark b b')
  · rw [Builtin.name_injective (List.append_cancel_left hname)]

lemma nodup_forms (config : AppsConfig) (b : Builtin) : (config.forms b).Nodup := by
  rw [forms]
  split_ifs <;> simp

/-- **The names are all different**, whatever the mark. -/
lemma nodup_registrations (config : AppsConfig) : (config.registrations.map Prod.fst).Nodup := by
  have hnodup : config.registrations.Nodup := by
    refine List.nodup_flatMap.mpr ⟨fun b _ => config.nodup_forms b, ?_⟩
    refine (Builtin.nodup_all.filter _).imp fun {b b'} hne => ?_
    refine List.disjoint_left.mpr fun p hp hp' => hne ?_
    exact congrArg Prod.fst (eq_of_mem_forms hp hp')
  refine hnodup.map_on ?_
  rintro ⟨name, app⟩ h ⟨name', app'⟩ h' hname
  obtain rfl : name = name' := hname
  obtain ⟨b, _, hb⟩ := mem_registrations.mp h
  obtain ⟨b', _, hb'⟩ := mem_registrations.mp h'
  rw [(Prod.mk.inj (eq_of_mem_forms hb hb')).2]

/-- What is registered depends on the mark and on which builtins are disabled, and on nothing else
    that the list may hold. -/
lemma registrations_congr {config' : AppsConfig} (hmark : config.mark = config'.mark)
    (h : ∀ b : Builtin, b.name ∈ config.disabled ↔ b.name ∈ config'.disabled) :
    config.registrations = config'.registrations := by
  have hforms : config.forms = config'.forms := by
    funext b
    rw [forms, forms, hmark]
  have henabled : config.enabled = config'.enabled := by
    refine List.filter_congr fun b _ => ?_
    simp [h b]
  rw [registrations, registrations, hforms, henabled]

end AppsConfig

/-! ## Registries -/

namespace Registry

/-- Registers applications one after another. -/
def insertAll (r : Registry) (regs : List (Text × Application)) : Registry :=
  regs.foldl (fun r p => r.insert p.1 p.2) r

lemma insertAll_append (r : Registry) (regs regs' : List (Text × Application)) :
    r.insertAll (regs ++ regs') = (r.insertAll regs).insertAll regs' :=
  List.foldl_append

lemma get?_eq_none_iff {r : Registry} {name : Text} :
    r.get? name = none ↔ name ∉ r.apps.map Prod.fst := by
  simp only [get?, List.lookup_eq_none_iff, bne_iff_ne, List.mem_map, not_exists, not_and]
  exact ⟨fun h p hp heq => h p hp heq.symm, fun h p hp heq => h p hp heq.symm⟩

lemma insertApp_of_notMem {name : Text} {apps : List (Text × Application)}
    (h : name ∉ apps.map Prod.fst) (app : Application) :
    insertApp name app apps = apps ++ [(name, app)] := by
  induction apps with
  | nil => rfl
  | cons p rest ih =>
      rw [List.map_cons, List.mem_cons, not_or] at h
      rw [insertApp, if_neg (Ne.symm h.1), ih h.2, List.cons_append]

/-- **Under different names nothing is replaced.** -/
lemma apps_insertAll {r : Registry} {regs : List (Text × Application)}
    (h : ((r.apps ++ regs).map Prod.fst).Nodup) : (r.insertAll regs).apps = r.apps ++ regs := by
  induction regs generalizing r with
  | nil => simp [insertAll]
  | cons p regs ih =>
      have hfree : p.1 ∉ r.apps.map Prod.fst := by
        rw [List.map_append, List.map_cons, List.nodup_append] at h
        exact fun hmem => h.2.2 p.1 hmem p.1 List.mem_cons_self rfl
      have hinsert : (r.insert p.1 p.2).apps = r.apps ++ [p] := insertApp_of_notMem hfree p.2
      have hnext := ih (r := r.insert p.1 p.2) (by simpa [hinsert] using h)
      rw [hinsert, List.append_assoc, List.singleton_append] at hnext
      exact hnext

lemma addBuiltin_eq (config : AppsConfig) (r : Registry) (b : Builtin) :
    addBuiltin config r b =
      if config.disabled.contains b.name then r else r.insertAll (config.forms b) := by
  rw [addBuiltin, AppsConfig.forms]
  split_ifs <;> rfl

lemma foldl_addBuiltin (config : AppsConfig) (r : Registry) (bs : List Builtin) :
    bs.foldl (addBuiltin config) r =
      r.insertAll ((bs.filter fun b => !config.disabled.contains b.name).flatMap config.forms) := by
  induction bs generalizing r with
  | nil => rfl
  | cons b bs ih =>
      rw [List.foldl_cons, ih, addBuiltin_eq]
      cases h : config.disabled.contains b.name with
      | true => rw [List.filter_cons_of_neg (by rw [h]; decide), if_pos rfl]
      | false =>
          rw [List.filter_cons_of_pos (by rw [h]; rfl), List.flatMap_cons, insertAll_append]
          rfl

lemma ofConfig_eq (config : AppsConfig) :
    ofConfig config = insertAll {} config.registrations :=
  foldl_addBuiltin config {} Builtin.all

/-- **A registry holds all that was registered.** -/
theorem apps_ofConfig (config : AppsConfig) : (ofConfig config).apps = config.registrations := by
  rw [ofConfig_eq]
  exact apps_insertAll config.nodup_registrations

variable {config : AppsConfig} {b : Builtin} {name : Text} {app : Application}

lemma get?_ofConfig (hb : b.name ∉ config.disabled) (h : (name, app) ∈ config.forms b) :
    (ofConfig config).get? name = some app := by
  rw [get?, apps_ofConfig]
  exact lookup_of_mem config.nodup_registrations (AppsConfig.mem_registrations.mpr ⟨b, hb, h⟩)

lemma mem_names_ofConfig :
    name ∈ (ofConfig config).names ↔ ∃ app, (name, app) ∈ config.registrations := by
  rw [names, Text.mem_sort, apps_ofConfig]
  simp

lemma ofConfig_congr {config' : AppsConfig} (hmark : config.mark = config'.mark)
    (h : ∀ b : Builtin, b.name ∈ config.disabled ↔ b.name ∈ config'.disabled) :
    ofConfig config = ofConfig config' := by
  rw [ofConfig_eq, ofConfig_eq, AppsConfig.registrations_congr hmark h]

/-- **What a configuration registers.**  The names are those of the builtins that are not disabled
    and, if there is a mark, the same names with it before them, `--help` apart; in order, and each
    of them once.  A name finds the builtin itself, and with the mark its tolerant form, which
    takes its arguments as the builtin does; no other name finds anything.  Whatever the mark, each
    registration finds its name free.  What is disabled and is not a builtin makes no difference. -/
theorem ofConfig_registers (config : AppsConfig) :
    (∀ name, name ∈ (ofConfig config).names ↔ ∃ b : Builtin, b.name ∉ config.disabled ∧
      (name = b.name ∨ (config.mark ≠ [] ∧ b ≠ .help) ∧ name = config.mark ++ b.name)) ∧
    (ofConfig config).names.Pairwise (fun s t => Utf8.encode s < Utf8.encode t) ∧
    (∀ name, (ofConfig config).get? name = none ↔ name ∉ (ofConfig config).names) ∧
    (∀ b : Builtin, b.name ∉ config.disabled →
      (ofConfig config).get? b.name = some (.plain b) ∧
      (config.mark ≠ [] → b ≠ .help → ∃ app,
        (ofConfig config).get? (config.mark ++ b.name) = some app ∧
        app = .tolerant (.plain b) ∧ app.isRaw = b.isRaw)) ∧
    (ofConfig config = insertAll {} config.registrations ∧
      ∀ before name app after, config.registrations = before ++ (name, app) :: after →
        (insertAll {} before).get? name = none) ∧
    ∀ disabled, (∀ b : Builtin, b.name ∈ disabled ↔ b.name ∈ config.disabled) →
      ofConfig { config with disabled } = ofConfig config := by
  refine ⟨fun name => ?_, ?_, fun name => ?_, fun b hb => ⟨?_, fun hmark hhelp => ?_⟩,
    ⟨ofConfig_eq config, fun before name app after h => ?_⟩, fun disabled hsame => ?_⟩
  · rw [mem_names_ofConfig]
    simp only [AppsConfig.mem_registrations, AppsConfig.mem_forms]
    constructor
    · rintro ⟨app, b, hb, ⟨hname, _⟩ | ⟨hmarked, hname, _⟩⟩
      · exact ⟨b, hb, .inl hname⟩
      · exact ⟨b, hb, .inr ⟨hmarked, hname⟩⟩
    · rintro ⟨b, hb, hname | ⟨hmarked, hname⟩⟩
      · exact ⟨_, b, hb, .inl ⟨hname, rfl⟩⟩
      · exact ⟨_, b, hb, .inr ⟨hmarked, hname, rfl⟩⟩
  · refine Text.increasing_sort ?_
    rw [apps_ofConfig]
    exact config.nodup_registrations
  · rw [get?_eq_none_iff, names, Text.mem_sort]
  · exact get?_ofConfig hb (AppsConfig.mem_forms.mpr (.inl ⟨rfl, rfl⟩))
  · refine ⟨_, get?_ofConfig hb (AppsConfig.mem_forms.mpr (.inr ⟨⟨hmark, hhelp⟩, rfl, rfl⟩)), ?_⟩
    exact ⟨rfl, rfl⟩
  · have hnodup := config.nodup_registrations
    rw [h, List.map_append, List.map_cons, List.nodup_append] at hnodup
    have hbefore : (insertAll {} before).apps = before := apps_insertAll hnodup.1
    rw [get?_eq_none_iff, hbefore]
    exact fun hmem => hnodup.2.2 name hmem name List.mem_cons_self rfl
  · have hmark : ({ config with disabled } : AppsConfig).mark = config.mark := rfl
    exact ofConfig_congr hmark hsame

/-- A mark that is the beginning of a builtin's name, and a list that disables one builtin. -/
theorem ofConfig_registers_dashes :
    let config : AppsConfig := ⟨"--".toList, ["cat".toList, "help".toList, "--ls".toList]⟩
    (ofConfig config).get? "--help".toList = some (.plain .help) ∧
      (ofConfig config).get? "--echo".toList = some (.tolerant (.plain .echo)) ∧
      "--cat".toList ∉ (ofConfig config).names ∧ "--ls".toList ∈ (ofConfig config).names ∧
      ofConfig config = ofConfig { config with disabled := ["cat".toList] } := by
  intro config
  obtain ⟨hnames, _, hnone, hfind, _, hcongr⟩ := ofConfig_registers config
  obtain ⟨hhelp, _⟩ := hfind .help (by decide)
  obtain ⟨app, hget, rfl, _⟩ := (hfind .echo (by decide)).2 (by decide) (by decide)
  have hsame : ∀ b : Builtin, b.name ∈ ["cat".toList] ↔ b.name ∈ config.disabled := by
    intro b
    cases b <;> decide
  refine ⟨hhelp, hget, (hnone _).mp (by decide), (hnames _).mpr ⟨.ls, by decide, ?_⟩,
    (hcongr _ hsame).symm⟩
  exact .inr ⟨by decide, rfl⟩

end Registry

end LineShell
