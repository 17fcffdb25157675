import PriceTracker.Crawl.Start
import PriceTracker.Proofs.Crawl.Termination
import PriceTracker.Proofs.Storage.Provision
import PriceTracker.Proofs.Text.Alphanumeric

/-!
# When a crawl starts

The rules for settings are meant to let those through that a crawl can start with. On a database
with both tables they see to all that is needed but for one thing: the header with the name of the
crawler also holds its version, for which there is no rule, and the contact page as it was written,
where the rule leaves out the control characters that the reading of a URL drops or encodes.

* `AgentSettings.isHeaderValue_header`: the header can be sent if these two can be;
* `Crawl.start_of_accepted`: what the start of a crawl comes to for accepted settings;
* `starts_iff_sendable`: so a crawl starts exactly if the two can be sent.
-/

namespace PriceTracker

open Storage

/-! ## The header -/

theorem isHeaderValue_append (a b : String) :
    isHeaderValue (a ++ b) = (isHeaderValue a && isHeaderValue b) := by
  rw [isHeaderValue, String.toList_append, List.all_append]
  rfl

/-- A letter, a digit or a hyphen is no control character. -/
theorem isHeaderValue_of_agentName {name : String} (h : name.toList.all isAgentNameChar = true) :
    isHeaderValue name = true := by
  rw [isHeaderValue, List.all_eq_true]
  intro c hc
  have hname := List.all_eq_true.1 h c hc
  rw [isAgentNameChar, Bool.or_eq_true, beq_iff_eq] at hname
  rcases hname with halpha | rfl
  · have hprintable : 0x20 ≤ c.toNat ∧ c.toNat ≠ 0x7F := by
      by_cases hascii : c.toNat < 0x80
      · rw [Text.isAlphanumeric_of_lt hascii, Text.isAlphanum_iff] at halpha
        omega
      · omega
    simp [hprintable]
  · rfl

namespace AgentSettings

variable {a : AgentSettings}

/-- The texts that go into the header unchanged can be sent: none holds a control character but the
tab. -/
def Sendable (a : AgentSettings) : Prop :=
  isHeaderValue a.version = true ∧ ∀ url ∈ a.contactUrl, isHeaderValue url = true

theorem name_of_validate (h : a.validate = .ok ()) : a.name.toList.all isAgentNameChar = true := by
  rw [validate] at h
  split at h
  · simp [throw, throwThe, MonadExceptOf.throw, bind, Except.bind] at h
  · dsimp only at h
    split at h
    · simp [throw, throwThe, MonadExceptOf.throw, bind, Except.bind] at h
    · next hname => simpa using hname

/-- **The header of an accepted name can be sent if the version and the contact page can be.** -/
theorem isHeaderValue_header (accepted : a.validate = .ok ()) :
    isHeaderValue a.header = true ↔ a.Sendable := by
  have hname := isHeaderValue_of_agentName (name_of_validate accepted)
  have hslash : isHeaderValue "/" = true := by decide
  have hopen : isHeaderValue " (+" = true := by decide
  have hclose : isHeaderValue ")" = true := by decide
  rw [header, Sendable]
  cases a.contactUrl with
  | none => simp [isHeaderValue_append, hname, hslash, ToString.toString]
  | some url => simp [isHeaderValue_append, hname, hslash, hopen, hclose, ToString.toString]

end AgentSettings

/-! ## The start -/

/-- The start page of accepted settings is a URL. -/
theorem CrawlSettings.exists_root_of_validate {c : CrawlSettings} (h : c.validate = .ok ()) :
    ∃ root, Url.parse c.startUrl = .ok root := by
  cases hparse : Url.parse c.startUrl with
  | ok root => exact ⟨root, rfl⟩
  | error cause =>
    simp [validate, hparse, throw, throwThe, MonadExceptOf.throw, bind, Except.bind] at h

/-- Accepted settings stay so with another version, and with a contact page that is a URL. -/
theorem Settings.validate_with_agent {settings : Settings} (accepted : settings.validate = .ok ())
    (version : String) {contactUrl : Option String}
    (page : ∀ url ∈ contactUrl, ∃ u, Url.parse url = .ok u) :
    ({ settings with agent := { settings.agent with version, contactUrl } } : Settings).validate =
      .ok () := by
  obtain ⟨hdatabase, hcrawl, hagent⟩ := Settings.validate_eq_ok_iff.1 accepted
  refine Settings.validate_eq_ok_iff.2 ⟨hdatabase, hcrawl, ?_⟩
  have hname := AgentSettings.name_of_validate hagent
  have hempty : settings.agent.name.isEmpty = false := by
    by_contra hempty
    simp [AgentSettings.validate, (Bool.not_eq_false _).mp hempty, throw, throwThe,
      MonadExceptOf.throw, bind, Except.bind] at hagent
  cases contactUrl with
  | none => simp [AgentSettings.validate, hname, hempty, pure, Except.pure]
  | some url =>
    obtain ⟨u, hu⟩ := page url rfl
    simp [AgentSettings.validate, hname, hempty, hu, pure, Except.pure]

namespace Crawl

/-- The crawl that settings ask for, with the given category pages queued or else the root page. -/
def prepared (settings : CrawlSettings) (root : Url) (categories : List Url) (store : Store) :
    Crawl Store :=
  if categories.isEmpty then (ofSettings settings store).seedRoot root
  else (ofSettings settings store).seedCategories categories

variable {settings : Settings} {db : Database}

/-- **The start of a crawl with accepted settings.** If both tables are there, the header alone
decides whether it succeeds. -/
theorem start_of_accepted (accepted : settings.validate = .ok ())
    (product : db.hasTable settings.database.productTable = true)
    (price : db.hasTable settings.database.priceTable = true) :
    ∃ store root,
      Store.connect (.ok db) settings.database.productTable settings.database.priceTable =
        .ok store ∧
      store.verify = .ok () ∧ Url.parse settings.crawl.startUrl = .ok root ∧
      ∀ categories, start settings categories (.ok db) =
        if isHeaderValue settings.agent.header then
          .ok (prepared settings.crawl root categories store)
        else .error .badHeader := by
  obtain ⟨hdatabase, hcrawl, -⟩ := Settings.validate_eq_ok_iff.1 accepted
  obtain ⟨hproduct, hprice, -⟩ := DatabaseSettings.names_of_validate hdatabase
  obtain ⟨root, hroot⟩ := CrawlSettings.exists_root_of_validate hcrawl
  let store : Store :=
    ⟨db, settings.database.productTable, settings.database.priceTable, hproduct, hprice⟩
  have hconnect : Store.connect (.ok db) settings.database.productTable
      settings.database.priceTable = .ok store := by
    rw [Store.connect, dif_pos hproduct, dif_pos hprice]
  have hverify : store.verify = .ok () := by
    simp [Store.verify, store, product, price]
  refine ⟨store, root, hconnect, hverify, hroot, fun categories => ?_⟩
  rw [start]
  simp only [hconnect, hverify, hroot, Except.mapError, bind, Except.bind]
  cases isHeaderValue settings.agent.header with
  | false => rfl
  | true =>
    cases hcategories : categories.isEmpty <;> simp [prepared, hcategories, pure, Except.pure]

/-- **Accepted settings start a crawl exactly if their version and contact page can be sent.** On a
database with both tables, the store opens, finds them, and the start page is read, whatever
category pages are given. If the version and the contact page hold no control character but tabs,
the crawl starts and comes to the result of its run, so that only the run can fail. If one of them
does, the crawl fails because of its header, although the settings were accepted, and leaves the
database as it is. -/
theorem starts_iff_sendable (accepted : settings.validate = .ok ())
    (product : db.hasTable settings.database.productTable = true)
    (price : db.hasTable settings.database.priceTable = true) :
    ∃ store root,
      Store.connect (.ok db) settings.database.productTable settings.database.priceTable =
        .ok store ∧
      store.verify = .ok () ∧ Url.parse settings.crawl.startUrl = .ok root ∧
      ∀ categories,
        let crawl := prepared settings.crawl root categories store
        (settings.agent.Sendable →
          start settings categories (.ok db) = .ok crawl ∧
            ∀ site day stop, ∃ result after,
              crawl.runOn site (storeSink day) stop = (some result, after) ∧
                fill settings categories site day stop (.ok db) =
                  (some (result.mapError .run), .ok after.buffer.sink.database)) ∧
        (¬settings.agent.Sendable →
          start settings categories (.ok db) = .error .badHeader ∧
            ∀ site day stop, fill settings categories site day stop (.ok db) =
              (some (.error .badHeader), .ok db)) := by
  obtain ⟨store, root, hconnect, hverify, hroot, hstart⟩ :=
    start_of_accepted accepted product price
  refine ⟨store, root, hconnect, hverify, hroot, fun categories => ?_⟩
  intro crawl
  have hheader := AgentSettings.isHeaderValue_header (Settings.validate_eq_ok_iff.1 accepted).2.2
  constructor
  · intro sendable
    have hcrawl : start settings categories (.ok db) = .ok crawl := by
      rw [hstart categories, if_pos (hheader.2 sendable)]
    refine ⟨hcrawl, fun site day stop => ?_⟩
    obtain ⟨result, after, hrun⟩ := runOn_ends site (storeSink day) stop crawl
    refine ⟨result, after, hrun, ?_⟩
    simp only [fill, hcrawl, hrun, Option.map_some]
  · intro unsendable
    have hfails : start settings categories (.ok db) = .error .badHeader := by
      rw [hstart categories, if_neg fun h => unsendable (hheader.1 h)]
    exact ⟨hfails, fun site day stop => fill_of_start_eq_error hfails⟩

/-- Settings whose version is a number and which name no contact page. -/
theorem crawl_starts_with_plain_version :
    let settings : Settings :=
      { database := ⟨"prices.db", "products", "prices"⟩
        crawl := { startUrl := "http://[::1]/" }
        agent := { name := "-" } }
    let db := Store.blank.database
    settings.validate = .ok () ∧ db.hasTable "products" = true ∧ db.hasTable "prices" = true ∧
      settings.agent.Sendable ∧ ∃ crawl, start settings [] (.ok db) = .ok crawl := by
  intro settings db
  have accepted : settings.validate = .ok () := validate_of_names (by decide +kernel)
  have product : db.hasTable "products" = true := by decide +kernel
  have price : db.hasTable "prices" = true := by decide +kernel
  have sendable : settings.agent.Sendable := ⟨by decide, fun _ hurl => by simp [settings] at hurl⟩
  obtain ⟨_, _, -, -, -, hstart⟩ := starts_iff_sendable accepted product price
  exact ⟨accepted, product, price, sendable, _, ((hstart []).1 sendable).1⟩

/-- There is no rule for the version, and the rule for the contact page overlooks a line break at
its end, as the reading of a URL leaves it out. The settings are accepted, both tables are there,
and the crawl does not start. -/
theorem crawl_with_line_break_not_started :
    let settings (version : String) (contactUrl : Option String) : Settings :=
      { database := ⟨"prices.db", "products", "prices"⟩
        crawl := { startUrl := "http://[::1]/" }
        agent := { name := "-", version, contactUrl } }
    let db := Store.blank.database
    db.hasTable "products" = true ∧ db.hasTable "prices" = true ∧
      (settings "1.0\n" none).validate = .ok () ∧
      start (settings "1.0\n" none) [] (.ok db) = .error .badHeader ∧
      (settings "1.0" (some "http://[::1]/\n")).validate = .ok () ∧
      start (settings "1.0" (some "http://[::1]/\n")) [] (.ok db) = .error .badHeader := by
  intro settings db
  have product : db.hasTable "products" = true := by decide +kernel
  have price : db.hasTable "prices" = true := by decide +kernel
  have accepted : (settings "1.0.0" none).validate = .ok () := validate_of_names (by decide +kernel)
  have version : (settings "1.0\n" none).validate = .ok () :=
    Settings.validate_with_agent accepted _ fun _ hurl => by simp at hurl
  have contact : (settings "1.0" (some "http://[::1]/\n")).validate = .ok () := by
    refine Settings.validate_with_agent accepted _ fun url hurl => ?_
    obtain rfl := Option.some.inj hurl
    exact CrawlSettings.exists_root_of_validate
      (c := { startUrl := "http://[::1]/\n" }) (by decide +kernel)
  refine ⟨product, price, version, ?_, contact, ?_⟩
  · obtain ⟨_, _, -, -, -, hstart⟩ := start_of_accepted version product price
    rw [hstart, if_neg (by decide +kernel)]
  · obtain ⟨_, _, -, -, -, hstart⟩ := start_of_accepted contact product price
    rw [hstart, if_neg (by decide +kernel)]

end Crawl

end PriceTracker
