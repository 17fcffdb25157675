import PriceTracker.Crawl.Site
import PriceTracker.Proofs.Crawl.Frontier
import PriceTracker.Proofs.Crawl.History

/-!
# Every crawl of a finite site ends

A page may lead to any number of others, so the queue can grow with every turn. What a turn uses up
is `Frontier.potential keys`: the waiting pages together with those of the pages `keys` that were
never queued. A page moves from the latter to the former at most once, as `Frontier.push` leaves out
what was seen before, and each turn takes one away.

* `Closed web P keys` says that tasks with the property `P` lead to tasks with the property and with
  keys among `keys` only;
* `spends_step`: then a turn ends the run or lowers the potential, and asks for one page at most;
* `runFor_of_closed`: so a run ends within so many turns, and asks for no more pages.
-/

namespace PriceTracker.Crawl

variable {σ : Type} {web : Web} {P : CrawlTask → Prop} {keys : Finset String}

/-! ## Turns and runs -/

/-- Tasks with a property lead to such tasks only, and to pages with some of the given keys only. -/
def Closed (web : Web) (P : CrawlTask → Prop) (keys : Finset String) : Prop :=
  ∀ task, P task → ∀ next ∈ task.leadsTo (web task.url).body, P next ∧ next.key ∈ keys

theorem requests_finish (s : Sink σ) (c : Crawl σ) : (c.finish s).2.requests = c.requests := by
  rw [finish_snd]

theorem frontier_finish (s : Sink σ) (c : Crawl σ) : (c.finish s).2.frontier = c.frontier := by
  rw [finish_snd]

theorem length_requests_of_receive {s : Sink σ} {task : CrawlTask} {c d : Crawl σ}
    {result : Except WriteFailure Unit}
    (h : (c.answered web task).receive s task (web task.url).body = (result, d)) :
    d.requests.length = c.requests.length + 1 := by
  have hd := requests_receive s task (web task.url).body (c.answered web task)
  rw [h] at hd
  exact (congrArg List.length hd).trans List.length_append

/-- What becomes of the frontier and the requests in some turns: the tasks keep their property, and
the pages that were asked for and the potential together do not grow. -/
structure Spends (P : CrawlTask → Prop) (keys : Finset String) (c d : Crawl σ) : Prop where
  queue : ∀ task ∈ d.frontier.queue, P task
  potential : d.frontier.potential keys ≤ c.frontier.potential keys
  requests : d.requests.length + d.frontier.potential keys ≤
    c.requests.length + c.frontier.potential keys

theorem Spends.refl {c : Crawl σ} (queue : ∀ task ∈ c.frontier.queue, P task) :
    Spends P keys c c :=
  ⟨queue, le_rfl, le_rfl⟩

theorem Spends.trans {c d e : Crawl σ} (h₁ : Spends P keys c d) (h₂ : Spends P keys d e) :
    Spends P keys c e where
  queue := h₂.queue
  potential := h₂.potential.trans h₁.potential
  requests := h₂.requests.trans h₁.requests

theorem potential_lt_of_taken {c d : Crawl σ} {task : CrawlTask} {rest : List CrawlTask}
    (next : c.frontier.queue = task :: rest)
    (potential : d.frontier.potential keys ≤ c.taken.frontier.potential keys) :
    d.frontier.potential keys < c.frontier.potential keys := by
  have hrest : c.taken.frontier.potential keys + 1 = c.frontier.potential keys :=
    Frontier.potential_rest keys next
  omega

/-- Taking a task lowers the potential, which pays for one request. -/
theorem spends_of_taken {c d : Crawl σ} {task : CrawlTask} {rest : List CrawlTask}
    (next : c.frontier.queue = task :: rest) (queue : ∀ task ∈ d.frontier.queue, P task)
    (potential : d.frontier.potential keys ≤ c.taken.frontier.potential keys)
    (requests : d.requests.length ≤ c.requests.length + 1) : Spends P keys c d := by
  have hlt := potential_lt_of_taken next potential
  exact ⟨queue, hlt.le, by omega⟩

/-- **A turn ends the run or lowers the potential**, by one at least for the page that it asks
for. -/
theorem spends_step (h : Closed web P keys) (s : Sink σ) (stop : Option Nat) {c : Crawl σ}
    (hqueue : ∀ task ∈ c.frontier.queue, P task) {result : Option (Except RunFailure Tally)}
    {d : Crawl σ} (hstep : c.step web s stop = (result, d)) :
    Spends P keys c d ∧
      (result = none → d.frontier.potential keys < c.frontier.potential keys) := by
  have htail : ∀ task ∈ c.taken.frontier.queue, P task := fun task htask =>
    hqueue task (List.mem_of_mem_tail htask)
  generalize hv : c.visit? web s stop = visit
  cases turn_of_step hv hstep with
  | finished =>
    refine ⟨⟨?_, ?_, ?_⟩, nofun⟩
    · rwa [frontier_finish]
    · rw [frontier_finish]
    · rw [frontier_finish, requests_finish]
  | stopped next =>
    refine ⟨spends_of_taken next ?_ ?_ ?_, nofun⟩
    · exact htail
    · exact le_rfl
    · exact Nat.le_succ _
  | skipped next =>
    exact ⟨spends_of_taken next htail le_rfl (Nat.le_succ _),
      fun _ => potential_lt_of_taken next le_rfl⟩
  | interrupted next _ _ await =>
    refine ⟨spends_of_taken next ?_ ?_ ?_, nofun⟩ <;>
      obtain hd | hd := await_eq_none await <;> rw [hd]
    · exact htail
    · exact htail
    · exact le_rfl
    · exact le_rfl
    · exact Nat.le_succ _
    · exact List.length_append.le
  | @visited task rest _ next _ _ receive =>
    have hrequests := length_requests_of_receive receive
    have hfrontier := frontier_receive_of_ok receive
    have hclosed := h task (hqueue task (by simp [next]))
    have hpush : d.frontier.potential keys ≤ c.taken.frontier.potential keys := by
      rw [hfrontier]
      exact Frontier.potential_pushAll_le fun next hnext => (hclosed next hnext).2
    refine ⟨spends_of_taken next (fun t ht => ?_) hpush hrequests.le,
      fun _ => potential_lt_of_taken next hpush⟩
    rw [hfrontier] at ht
    obtain ht | ⟨ht, -⟩ := Frontier.mem_queue_pushAll ht
    · exact htail t ht
    · exact (hclosed t ht).1
  | failed next _ _ receive =>
    have hrequests := length_requests_of_receive receive
    have hfrontier := frontier_receive_of_error receive
    refine ⟨spends_of_taken next ?_ ?_ hrequests.le, nofun⟩ <;> rw [hfrontier]
    · exact htail
    · exact le_rfl

/-- **A run ends.** -/
theorem runFor_of_closed (h : Closed web P keys) (s : Sink σ) (stop : Option Nat) {turns : Nat}
    {c : Crawl σ} (hqueue : ∀ task ∈ c.frontier.queue, P task)
    (hturns : c.frontier.potential keys < turns) :
    ∃ result d, c.runFor web s stop turns = (some result, d) ∧ Spends P keys c d := by
  have hends : ∃ result d, c.runFor web s stop turns = (some result, d) :=
    runFor_ends (I := fun c => ∀ task ∈ c.frontier.queue, P task)
      (fun c d hc hstep =>
        have ⟨hspends, hless⟩ := spends_step h s stop hc hstep
        ⟨hspends.queue, hless rfl⟩)
      hqueue hturns
  have hspends := runFor_induction
    (R := fun c _ d => (∀ task ∈ c.frontier.queue, P task) → Spends P keys c d)
    (fun _ => .refl) (fun h₁ h₂ hc => (h₁ hc).trans (h₂ (h₁ hc).queue))
    (fun c hc => (spends_step h s stop hc rfl).1) turns c hqueue
  obtain ⟨result, d, hrun⟩ := hends
  rw [hrun] at hspends
  exact ⟨result, d, hrun, hspends⟩

theorem run_of_closed (h : Closed web P keys) (s : Sink σ) (stop : Option Nat) {turns : Nat}
    {c : Crawl σ} (hqueue : ∀ task ∈ c.frontier.queue, P task)
    (hturns : c.frontier.potential keys < turns) :
    ∃ result d, c.run web s stop turns = (some result, d) ∧
      d.requests.length ≤ c.requests.length + c.frontier.potential keys := by
  rw [run]
  split
  · exact ⟨_, c, rfl, Nat.le_add_right _ _⟩
  · obtain ⟨result, d, hrun, hspends⟩ := runFor_of_closed h s stop hqueue hturns
    have hrequests := hspends.requests
    exact ⟨result, d, hrun, by omega⟩

/-! ## Finite sites -/

/-- All links that the answer to a request leads to are links of the page. -/
theorem url_mem_linksOf {task next : CrawlTask} {reply : Reply}
    (h : next ∈ task.leadsTo reply.body) : next.url ∈ Site.linksOf task.url reply := by
  unfold Site.linksOf
  unfold CrawlTask.leadsTo at h
  cases hbody : reply.body with
  | error e => simp [hbody] at h
  | ok page =>
    simp only [hbody, List.mem_map] at h
    obtain ⟨url, hurl, rfl⟩ := h
    rw [List.mem_append]
    split at hurl
    · exact Or.inl hurl
    · exact Or.inr hurl

/-- All tasks lead to the pages that the site links to. -/
theorem closed_of_keys
    (h : ∀ url, ∀ link ∈ Site.linksOf url (web url), link.pageKey ∈ keys) :
    Closed web (fun _ => True) keys :=
  fun _ _ _ hnext => ⟨trivial, h _ _ (url_mem_linksOf hnext)⟩

/-- All tasks lead to the links of some pages if there are no others. -/
theorem closed_of_links {links : List Url}
    (h : ∀ url, ∀ link ∈ Site.linksOf url (web url), link ∈ links) :
    Closed web (fun _ => True) (links.map Url.pageKey).toFinset :=
  closed_of_keys fun url link hlink => List.mem_toFinset.2 (List.mem_map_of_mem (h url link hlink))

/-- The bound on the turns that `runOn` takes is enough: **every run on a site ends**. -/
theorem runOn_ends (site : Site) (s : Sink σ) (stop : Option Nat) (c : Crawl σ) :
    ∃ result d, c.runOn site s stop = (some result, d) := by
  have hlinks : ∀ url, ∀ link ∈ Site.linksOf url (site.reply url), link ∈ site.links := by
    intro url link hlink
    unfold Site.reply at hlink
    split at hlink
    · next u reply hfind =>
      obtain rfl : u = url := by simpa using List.find?_some hfind
      exact List.mem_flatMap.2 ⟨_, List.mem_of_find?_eq_some hfind, hlink⟩
    · simp [Site.linksOf] at hlink
  have hturns : c.frontier.potential (site.links.map Url.pageKey).toFinset < c.turnsOn site := by
    have hcard : ((site.links.map Url.pageKey).toFinset \ c.frontier.seen.toFinset).card ≤
        site.links.length :=
      calc _ ≤ (site.links.map Url.pageKey).toFinset.card :=
            Finset.card_le_card Finset.sdiff_subset
        _ ≤ (site.links.map Url.pageKey).length := List.toFinset_card_le _
        _ = site.links.length := List.length_map _
    simp only [Frontier.potential, turnsOn]
    omega
  obtain ⟨result, d, hrun, -⟩ :=
    run_of_closed (closed_of_links hlinks) s stop (fun _ _ => trivial) hturns
  exact ⟨result, d, hrun⟩

/-- **A crawl of finitely many pages ends.** All pages but the given ones are missing. Whatever is
queued already, whatever the sink does and wherever the pages link to, a run ends, and the pages
that it asks for are no more than there are different ones among those that wait and those that the
given pages link to. -/
theorem run_ends_on_finite_web {web : Web} {pages : List Url}
    (finite : ∀ url, url ∉ pages → ∃ e, (web url).body = .error e) (s : Sink σ)
    (stop : Option Nat) (c : Crawl σ) :
    let known := c.frontier.queue.map CrawlTask.url ++
      pages.flatMap fun url => Site.linksOf url (web url)
    let bound := (known.map Url.pageKey).toFinset.card
    ∃ result d, c.run web s stop (bound + 1) = (some result, d) ∧
      d.requests.length ≤ c.requests.length + bound := by
  intro known bound
  have hlinks : ∀ url, ∀ link ∈ Site.linksOf url (web url),
      link ∈ pages.flatMap fun url => Site.linksOf url (web url) := by
    intro url link hlink
    by_cases hurl : url ∈ pages
    · exact List.mem_flatMap.2 ⟨url, hurl, hlink⟩
    · obtain ⟨e, he⟩ := finite url hurl
      simp [Site.linksOf, he] at hlink
  have hbound := Frontier.potential_le
    ((pages.flatMap fun url => Site.linksOf url (web url)).map Url.pageKey).toFinset c.frontier
  have hknown : (c.frontier.queue.map CrawlTask.key).toFinset ∪
      ((pages.flatMap fun url => Site.linksOf url (web url)).map Url.pageKey).toFinset =
        (known.map Url.pageKey).toFinset := by
    simp only [known, List.map_append, List.toFinset_append, List.map_map]
    rfl
  rw [hknown] at hbound
  obtain ⟨result, d, hrun, hrequests⟩ := run_of_closed (closed_of_links hlinks) s stop
    (fun _ _ => trivial) (Nat.lt_succ_of_le hbound)
  exact ⟨result, d, hrun, hrequests.trans (Nat.add_le_add_left hbound _)⟩

/-- Two listing pages that link to each other and to themselves. -/
theorem run_ends_on_circular_site :
    let a : Url := { scheme := "http", host := some (.name "a"), path := .segments [""] }
    let b : Url := { a with path := .segments ["b", ""] }
    let page := "<p id=CompoundPagingBottom><a class=page href=/>1</a><a class=page href=/b/>2</a>"
    let site : Site := { pages := [(a, { body := .ok page }), (b, { body := .ok page })] }
    let c : Crawl Unit := (fresh "Skladem" none {} () 10).seedCategories [a]
    let known := c.frontier.queue.map CrawlTask.url ++
      [a, b].flatMap fun url => Site.linksOf url (site.reply url)
    let bound := (known.map Url.pageKey).toFinset.card
    (∀ url, url ∉ [a, b] → ∃ e, (site.reply url).body = .error e) ∧
      ∃ result d, c.run site.reply ⟨fun _ _ => (.ok (), ())⟩ none (bound + 1) = (some result, d) ∧
        d.requests.length ≤ c.requests.length + bound := by
  intro a b page site c known bound
  have finite : ∀ url, url ∉ [a, b] → ∃ e, (site.reply url).body = .error e := by
    intro url hurl
    refine ⟨site.elsewhere url, ?_⟩
    have hfind : site.pages.find? (·.1 == url) = none := by
      simp only [List.mem_cons, List.not_mem_nil, or_false, not_or] at hurl
      simp [site, Ne.symm hurl.1, Ne.symm hurl.2]
    rw [Site.reply, hfind]
  exact ⟨finite, run_ends_on_finite_web finite _ none c⟩

end PriceTracker.Crawl
