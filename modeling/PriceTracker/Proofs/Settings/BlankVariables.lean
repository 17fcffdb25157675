import PriceTracker.Proofs.Environment.Shadowing
import PriceTracker.Proofs.Text.Alphanumeric
import PriceTracker.Proofs.Text.Trimming
import PriceTracker.Settings.Load

/-!
# Blank variables of the database

A variable of the database that is blank counts as missing (`require_eq`), but it keeps out the
value that a file of variables has for it. So it is not all the same whether a variable is blank or
not set (`blank_is_unset_iff`): with the blank no settings are ever loaded, and what is told is the
first variable that is missing. Without it the same is told, unless the file gives a value to the
variable that was missed.
-/

namespace PriceTracker.Settings

variable {env env' : Environment} {sources : Sources} {name missing : String}

/-! ## Variables that are missed -/

/-- The variables of the database, in the order in which they are asked for. -/
def databaseVariables : List String :=
  [connectionVariable, productTableVariable, priceTableVariable]

/-- The first variable that is missing or blank. -/
def firstMissing? (env : Environment) : Option String :=
  databaseVariables.find? env.lacks

theorem require_eq (env : Environment) (name : String) : require env.get? name =
    if env.lacks name then .error (.missingVariable name)
    else .ok (Text.trim ((env.get? name).getD "")) := by
  rw [require, Environment.lacks]
  cases env.get? name with
  | none => rfl
  | some value =>
    rw [Option.map_some, Option.getD_some, ← Text.isEmpty_trim]

/-- The first variable that is missing is told. -/
theorem loadDatabase_of_missing (h : firstMissing? env = some missing) :
    loadDatabase env.get? = .error (.missingVariable missing) := by
  simp only [firstMissing?, databaseVariables, List.find?_cons, List.find?_nil] at h
  rw [loadDatabase, require_eq, require_eq, require_eq]
  cases hconnection : env.lacks connectionVariable with
  | true =>
    obtain rfl : connectionVariable = missing := by simpa [hconnection] using h
    rfl
  | false =>
    cases hproducts : env.lacks productTableVariable with
    | true =>
      obtain rfl : productTableVariable = missing := by simpa [hconnection, hproducts] using h
      rfl
    | false =>
      cases hprices : env.lacks priceTableVariable with
      | true =>
        obtain rfl : priceTableVariable = missing := by
          simpa [hconnection, hproducts, hprices] using h
        rfl
      | false => simp [hconnection, hproducts, hprices] at h

theorem exists_loadDatabase (h : firstMissing? env = none) :
    ∃ database, loadDatabase env.get? = .ok database := by
  have hlacks (name) (hname : name ∈ databaseVariables) : env.lacks name = false := by
    simpa using List.find?_eq_none.1 h name hname
  rw [loadDatabase, require_eq, require_eq, require_eq,
    hlacks connectionVariable (by simp [databaseVariables]),
    hlacks productTableVariable (by simp [databaseVariables]),
    hlacks priceTableVariable (by simp [databaseVariables])]
  exact ⟨_, rfl⟩

theorem loadFile_ne_missing (content : Option (List UInt8)) (name : String) :
    loadFile content ≠ .error (.missingVariable name) := by
  unfold loadFile
  split
  · simp
  · split
    · simp
    · split <;> simp

theorem checked_ne_missing (settings : Settings) (name : String) :
    (match settings.validate with
      | .error fault => throw (.invalid fault)
      | .ok () => return settings : Except SettingsError Settings) ≠
        .error (.missingVariable name) := by
  cases settings.validate with
  | error fault => simp [throw, throwThe, MonadExceptOf.throw]
  | ok => simp [pure, Except.pure]

/-- **A variable is told if it is the first that is missing**, and for no other reason. -/
theorem load_eq_missing_iff (henv : sources.fullEnvironment = .ok env) :
    load sources = .error (.missingVariable missing) ↔ firstMissing? env = some missing := by
  rw [load, henv]
  simp only [bind, Except.bind]
  cases hfirst : firstMissing? env with
  | some first => simp [loadDatabase_of_missing hfirst]
  | none =>
    obtain ⟨database, hdatabase⟩ := exists_loadDatabase hfirst
    rw [hdatabase]
    refine iff_of_false (fun hload => ?_) (by simp)
    cases hsettings : sources.settingsFile with
    | none =>
      rw [hsettings] at hload
      exact checked_ne_missing _ _ hload
    | some content =>
      rw [hsettings] at hload
      cases hfile : loadFile content with
      | error e =>
        simp only [hfile, Except.error.injEq] at hload
        exact loadFile_ne_missing content missing (hload ▸ hfile)
      | ok file =>
        simp only [hfile] at hload
        exact checked_ne_missing _ _ hload

/-! ## Sources with and without a blank variable -/

/-- The sources with an environment that does not set a variable. -/
def Sources.unset (sources : Sources) (name : String) : Sources :=
  { sources with environment := sources.environment.unset name }

/-- The file of variables is refused with both environments, or read with both. -/
theorem Sources.fullEnvironment_cases {value : String}
    (hvalue : sources.environment.get? name = some value)
    (hblank : Text.isBlankText value = true) :
    sources.fullEnvironment = .error .badEnvironmentFile ∧
        (sources.unset name).fullEnvironment = .error .badEnvironmentFile ∨
      ∃ env env', sources.fullEnvironment = .ok env ∧
        (sources.unset name).fullEnvironment = .ok env' ∧ env.Shadows name env' := by
  have hshadows := Environment.shadows_unset hvalue hblank
  unfold Sources.fullEnvironment Sources.unset
  cases sources.environmentFile with
  | none => exact Or.inr ⟨_, _, rfl, rfl, hshadows⟩
  | some bytes =>
    dsimp only
    have hrel := Environment.rel_loadFile? hshadows bytes
    generalize Environment.loadFile? sources.environment bytes = full at hrel
    generalize Environment.loadFile? (sources.environment.unset name) bytes = full' at hrel
    cases hrel with
    | none => exact Or.inl ⟨rfl, rfl⟩
    | some henv => exact Or.inr ⟨_, _, rfl, rfl, henv⟩

theorem load_of_badEnvironmentFile (h : sources.fullEnvironment = .error .badEnvironmentFile) :
    load sources = .error .badEnvironmentFile := by
  rw [load, h]
  rfl

/-- If fewer elements have a property, the first one is the same if it still has it. -/
theorem find?_eq_some_iff_of_imp {α : Type} {p q : α → Bool} {l : List α} {a : α}
    (himp : ∀ x, q x = true → p x = true) (h : l.find? p = some a) :
    l.find? q = some a ↔ q a = true := by
  refine ⟨List.find?_some, fun hq => ?_⟩
  obtain ⟨-, before, after, rfl, hbefore⟩ := List.find?_eq_some_iff_append.1 h
  refine List.find?_eq_some_iff_append.2 ⟨hq, before, after, rfl, fun x hx => ?_⟩
  have hp := hbefore x hx
  cases hqx : q x with
  | false => rfl
  | true => simp [himp x hqx] at hp

/-- With the blank there is a variable that is missing. -/
theorem exists_firstMissing? (hname : name ∈ databaseVariables) (h : env.Shadows name env') :
    ∃ missing, firstMissing? env = some missing := by
  obtain ⟨value, hvalue, hblank⟩ := h.blank
  rw [← Option.isSome_iff_exists, firstMissing?, List.find?_isSome]
  refine ⟨name, hname, ?_⟩
  rw [Environment.lacks, hvalue]
  exact hblank

/-- The same variable is told in both environments if it is missing in the second one. -/
theorem firstMissing?_iff (h : env.Shadows name env') (hfirst : firstMissing? env = some missing) :
    firstMissing? env' = some missing ↔ env'.lacks missing = true :=
  find?_eq_some_iff_of_imp (fun _ => h.lacks_of_lacks) hfirst

/-- **When a blank variable counts as not set.** With a blank variable of the database nothing is
loaded. If it were not set, the same would be told as long as it is then missing, or blank, in the
file of variables too. In general the same is told exactly if the file is refused, or if the
variable that is told as missing is missing then too. -/
theorem blank_is_unset_iff {value : String} (hname : name ∈ databaseVariables)
    (hvalue : sources.environment.get? name = some value) (hblank : Text.isBlankText value = true) :
    (∃ e, load sources = .error e) ∧
    ((∀ env', (sources.unset name).fullEnvironment = .ok env' → env'.lacks name = true) →
      load (sources.unset name) = load sources) ∧
    (load (sources.unset name) = load sources ↔
      ∀ env', (sources.unset name).fullEnvironment = .ok env' →
        ∃ missing, load sources = .error (.missingVariable missing) ∧
          env'.lacks missing = true) := by
  obtain ⟨hbad, hbad'⟩ | ⟨env, env', henv, henv', h⟩ := Sources.fullEnvironment_cases hvalue hblank
  · rw [load_of_badEnvironmentFile hbad, load_of_badEnvironmentFile hbad', hbad']
    exact ⟨⟨_, rfl⟩, fun _ => rfl, by simp⟩
  · obtain ⟨missing, hfirst⟩ := exists_firstMissing? hname h
    have hload := (load_eq_missing_iff henv).2 hfirst
    have hsame : load (sources.unset name) = load sources ↔ env'.lacks missing = true := by
      rw [hload, load_eq_missing_iff henv', firstMissing?_iff h hfirst]
    refine ⟨⟨_, hload⟩, fun hlacks => hsame.2 ?_, ?_⟩
    · have hseen := h.seen_eq (hlacks env' henv') missing
      rw [Environment.lacks_iff, ← hseen, ← Environment.lacks_iff]
      exact List.find?_some hfirst
    · rw [hsame, hload, henv']
      simp

/-- A variable that is blank, and missing in the file of variables too. -/
theorem blank_connection_counts_as_unset :
    let sources : Sources :=
      { environment.entries := [(connectionVariable, "\u00A0"), (priceTableVariable, "prices")]
        environmentFile := some "BIKERO_PRODUCT_TABLE=products\n".toUTF8.toList }
    Text.isBlankText "\u00A0" = true ∧
      load (sources.unset connectionVariable) = load sources ∧
      load sources = .error (.missingVariable connectionVariable) := by
  intro sources
  have hblank : Text.isBlankText "\u00A0" = true := by decide
  have hfull : (sources.unset connectionVariable).fullEnvironment = .ok
      { entries := [(priceTableVariable, "prices"), (productTableVariable, "products")] } := by
    decide +kernel
  have hload : load sources = .error (.missingVariable connectionVariable) := by decide +kernel
  refine ⟨hblank, (blank_is_unset_iff (by decide) rfl hblank).2.1 fun env' henv' => ?_, hload⟩
  obtain rfl := Except.ok.inj (hfull.symm.trans henv')
  rfl

theorem load_of_valid {content : Option (List UInt8)} {database : DatabaseSettings}
    {file : CrawlFile} (henv : sources.fullEnvironment = .ok env)
    (hdatabase : loadDatabase env.get? = .ok database)
    (hcontent : sources.settingsFile = some content) (hfile : loadFile content = .ok file)
    (hvalid : (Settings.mk database file.crawl file.agent).validate = .ok ()) :
    load sources = .ok ⟨database, file.crawl, file.agent⟩ := by
  rw [load, henv, hcontent]
  simp only [bind, Except.bind, hdatabase, hfile, hvalid]
  rfl

theorem validate_usual_agent : ({} : AgentSettings).validate = .ok () := by
  have hascii : "bikero-scraper".toList.all
      (fun c => c.toNat < 0x80 && (c.isAlphanum || c == '-')) = true := by decide
  have hname : "bikero-scraper".toList.all isAgentNameChar = true := by
    refine List.all_eq_true.2 fun c hc => ?_
    have hc' := List.all_eq_true.1 hascii c hc
    rw [Bool.and_eq_true, decide_eq_true_eq] at hc'
    rw [isAgentNameChar, Text.isAlphanumeric_of_lt hc'.1, hc'.2]
  rw [AgentSettings.validate]
  simp only [hname]
  rfl

/-- A blank variable keeps out the value that the file of variables has for it. -/
theorem blank_connection_keeps_file_out :
    let sources : Sources :=
      { environment.entries := [(connectionVariable, "  "), (productTableVariable, "products"),
          (priceTableVariable, "prices")]
        environmentFile := some "BIKERO_DB_CONNECTION=prices.db\n".toUTF8.toList
        settingsFile := some (some "[crawler]\nstart-url = 'http://[::1]/'\n".toUTF8.toList) }
    load sources = .error (.missingVariable connectionVariable) ∧
      load (sources.unset connectionVariable) = .ok
        { database := ⟨"prices.db", "products", "prices"⟩
          crawl := { startUrl := "http://[::1]/" } } := by
  intro sources
  refine ⟨by decide +kernel, ?_⟩
  have henv : (sources.unset connectionVariable).fullEnvironment = .ok
      { entries := [(productTableVariable, "products"), (priceTableVariable, "prices"),
          (connectionVariable, "prices.db")] } := by decide +kernel
  have hfile : loadFile (some "[crawler]\nstart-url = 'http://[::1]/'\n".toUTF8.toList) = .ok
      { crawl := { startUrl := "http://[::1]/" } } := by decide +kernel
  refine load_of_valid henv (by decide +kernel) rfl hfile ?_
  rw [validate, validate_usual_agent]
  decide +kernel

end PriceTracker.Settings
