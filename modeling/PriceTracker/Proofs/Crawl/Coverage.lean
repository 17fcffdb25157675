import PriceTracker.Proofs.Crawl.Links
import PriceTracker.Proofs.Crawl.Termination

/-!
# The pages that a crawl visits

A crawl that starts at a root page or at given categories visits the pages that can be reached from
there, each once and in the order in which they were found: first those that it starts at, then
those that the first page leads to, and so on.

* `Seeding.Reachable` says which pages can be reached, without a crawl;
* `Seeding.InOrder` says of a list of pages that each was found on the way through those before it;
  such pages can be reached (`Seeding.InOrder.reachable`), and they are all that can be reached once
  nothing else is found on the way through them (`Seeding.Reachable.pageKey_mem`);
* `Crawl.Explores` is the invariant of a run: the visited pages and the waiting ones are the pages
  found so far, each once and in order (`Crawl.Explores.step`).
-/

namespace PriceTracker

/-! ## Reachable pages -/

/-- How a crawl begins. -/
inductive Seeding where
  /-- With the root page, which is read for categories. -/
  | root (url : Url)
  /-- With category pages. -/
  | categories (urls : List Url)

namespace Seeding

/-- The first pages. -/
def urls : Seeding → List Url
  | .root url => [url]
  | .categories urls => urls

/-- Whether a page is the root page. -/
def isRoot : Seeding → Url → Bool
  | .root first, url => url.pageKey == first.pageKey
  | .categories _, _ => false

/-- The crawl with its first pages queued. -/
def start {σ : Type} : Seeding → Crawl σ → Crawl σ
  | .root url, c => c.seedRoot url
  | .categories urls, c => c.seedCategories urls

/-- The links that are found on a page: the categories on the root page, the other pages of a
category on all others, and none if there is no such page. -/
def discovers (seeding : Seeding) (web : Web) (url : Url) : List Url :=
  match (web url).body with
  | .error _ => []
  | .ok page =>
    if seeding.isRoot url then Catalog.categories page url
    else (Catalog.listing "" page url).nextPages

/-- The pages that links lead to from the first pages. -/
inductive Reachable (seeding : Seeding) (web : Web) : Url → Prop where
  | seed {url : Url} (h : url ∈ seeding.urls) : Reachable seeding web url
  | link {url next : Url} (h : Reachable seeding web url)
      (hnext : next ∈ seeding.discovers web url) : Reachable seeding web next

/-- The stage in which a page is read. -/
def stageOf (seeding : Seeding) (url : Url) : CrawlStage :=
  if seeding.isRoot url then .categoryDiscovery else .productExtraction

variable {seeding : Seeding} {web : Web} {u v : Url}

theorem isRoot_congr (h : u.pageKey = v.pageKey) : seeding.isRoot u = seeding.isRoot v := by
  cases seeding with
  | root first => simp only [isRoot, h]
  | categories => rfl

theorem leadsTo_eq {task : CrawlTask} (h : task.stage = seeding.stageOf task.url) :
    task.leadsTo (web task.url).body =
      (seeding.discovers web task.url).map fun url => ⟨url, .productExtraction⟩ := by
  unfold CrawlTask.leadsTo discovers
  cases (web task.url).body with
  | error e => rfl
  | ok page =>
    rw [h, stageOf]
    cases seeding.isRoot task.url <;> rfl

theorem mem_linksOf_of_mem_discovers {url next : Url} (h : next ∈ seeding.discovers web url) :
    next ∈ Site.linksOf url (web url) := by
  obtain ⟨task, rfl, hstage⟩ :
      ∃ task : CrawlTask, task.url = url ∧ task.stage = seeding.stageOf task.url :=
    ⟨⟨url, seeding.stageOf url⟩, rfl, rfl⟩
  have hnext : CrawlTask.mk next .productExtraction ∈ task.leadsTo (web task.url).body := by
    rw [leadsTo_eq hstage]
    exact List.mem_map_of_mem h
  exact Crawl.url_mem_linksOf hnext

theorem map_pageKey_discovers (fixed : web.IgnoresFragments) (hu : u.IsRegular) (hv : v.IsRegular)
    (h : u.pageKey = v.pageKey) :
    (seeding.discovers web u).map Url.pageKey = (seeding.discovers web v).map Url.pageKey := by
  unfold discovers
  obtain ⟨page, hpu, hpv⟩ | ⟨e, e', heu, hev⟩ := fixed.body_cases h
  · simp only [hpu, hpv, isRoot_congr h]
    split
    · exact Catalog.map_pageKey_categories hu hv h page
    · exact Catalog.map_pageKey_nextPages hu hv h "" page
  · simp only [heu, hev]

theorem Reachable.isRegular (seeds : ∀ url ∈ seeding.urls, url.IsRegular) {url : Url}
    (h : seeding.Reachable web url) : url.IsRegular := by
  induction h with
  | seed h => exact seeds _ h
  | link _ hnext ih =>
    exact Site.isRegular_of_mem_linksOf ih _ (mem_linksOf_of_mem_discovers hnext)

/-! ## The order of the pages -/

/-- The pages that are found on the way through some pages, as often as they are found. -/
def found (seeding : Seeding) (web : Web) (visited : List Url) : List Url :=
  seeding.urls ++ visited.flatMap (seeding.discovers web)

/-- At any time, the pages visited so far are those found first on the way through the pages
visited before. -/
def InOrder (seeding : Seeding) (web : Web) (visited : List Url) : Prop :=
  ∀ n < visited.length,
    visited.take (n + 1) <+: firstBy Url.pageKey (seeding.found web (visited.take n))

theorem found_nil (seeding : Seeding) (web : Web) : seeding.found web [] = seeding.urls :=
  List.append_nil _

theorem found_concat (seeding : Seeding) (web : Web) (visited : List Url) (url : Url) :
    seeding.found web (visited ++ [url]) =
      seeding.found web visited ++ seeding.discovers web url := by
  rw [found, found, List.flatMap_append, List.flatMap_singleton, List.append_assoc]

theorem inOrder_concat {visited : List Url} {url : Url} :
    seeding.InOrder web (visited ++ [url]) ↔
      seeding.InOrder web visited ∧
        visited ++ [url] <+: firstBy Url.pageKey (seeding.found web visited) := by
  have htake : ∀ n ≤ visited.length, (visited ++ [url]).take n = visited.take n := fun n hn =>
    List.take_append_of_le_length hn
  have hlength : (visited ++ [url]).length = visited.length + 1 := List.length_append
  constructor
  · intro h
    refine ⟨fun n hn => ?_, ?_⟩
    · have hprefix := h n (by omega)
      rwa [htake _ hn, htake _ hn.le] at hprefix
    · have hprefix := h visited.length (by omega)
      rwa [← hlength, List.take_length, htake _ le_rfl, List.take_length] at hprefix
  · rintro ⟨hvisited, hlast⟩ n hn
    obtain hlt | rfl : n < visited.length ∨ n = visited.length := by omega
    · rw [htake _ hlt, htake _ hlt.le]
      exact hvisited n hlt
    · rwa [← hlength, List.take_length, htake _ le_rfl, List.take_length]

/-- Pages that are visited in order can be reached. -/
theorem InOrder.reachable {visited : List Url} (h : seeding.InOrder web visited) :
    ∀ url ∈ visited, seeding.Reachable web url := by
  induction visited using List.reverseRecOn with
  | nil => simp
  | append_singleton visited last ih =>
    obtain ⟨hvisited, hlast⟩ := inOrder_concat.1 h
    have hreach := ih hvisited
    have hfound : last ∈ seeding.found web visited :=
      mem_of_mem_firstBy (hlast.subset (List.mem_append_right _ (List.mem_singleton_self _)))
    have hlast : seeding.Reachable web last := by
      obtain hseed | hlink := List.mem_append.1 hfound
      · exact .seed hseed
      · obtain ⟨url, hurl, hnext⟩ := List.mem_flatMap.1 hlink
        exact .link (hreach url hurl) hnext
    intro url hurl
    obtain hurl | hurl := List.mem_append.1 hurl
    · exact hreach url hurl
    · exact List.mem_singleton.1 hurl ▸ hlast

/-- All pages that can be reached are visited once nothing else is found. -/
theorem Reachable.pageKey_mem (fixed : web.IgnoresFragments)
    (seeds : ∀ url ∈ seeding.urls, url.IsRegular) {visited : List Url}
    (hvisited : ∀ url ∈ visited, seeding.Reachable web url)
    (hall : firstBy Url.pageKey (seeding.found web visited) = visited) {url : Url}
    (h : seeding.Reachable web url) : url.pageKey ∈ visited.map Url.pageKey := by
  have hfound : ∀ key, key ∈ (seeding.found web visited).map Url.pageKey →
      key ∈ visited.map Url.pageKey := by
    intro key hkey
    rw [← hall]
    exact mem_map_firstBy.2 hkey
  induction h with
  | seed hseed => exact hfound _ (List.mem_map_of_mem (List.mem_append_left _ hseed))
  | @link url next hurl hnext ih =>
    -- The page may have been visited under another URL, which leads to the same pages.
    obtain ⟨v, hv, hkey⟩ := List.mem_map.1 ih
    have hlinks : (seeding.discovers web v).map Url.pageKey =
        (seeding.discovers web url).map Url.pageKey :=
      map_pageKey_discovers fixed ((hvisited v hv).isRegular seeds) (hurl.isRegular seeds) hkey
    have hnext : next.pageKey ∈ (seeding.discovers web v).map Url.pageKey :=
      hlinks ▸ List.mem_map_of_mem hnext
    obtain ⟨w, hw, hwkey⟩ := List.mem_map.1 hnext
    exact hwkey ▸ hfound _ (List.mem_map_of_mem
      (List.mem_append_right _ (List.mem_flatMap.2 ⟨v, hv, hw⟩)))

theorem isRoot_eq_false {url : Url} (h : url.pageKey ∉ seeding.urls.map Url.pageKey) :
    seeding.isRoot url = false := by
  cases seeding with
  | root first =>
    have hne : url.pageKey ≠ first.pageKey := fun heq => h (List.mem_singleton.2 heq)
    simpa [isRoot] using hne
  | categories => rfl

theorem handlesPages_stageOf (seeding : Seeding) (url : Url) :
    (seeding.stageOf url).handlesPages = true := by
  unfold stageOf
  split <;> rfl

end Seeding

/-! ## The course of a run -/

namespace Crawl

variable {σ : Type} {seeding : Seeding} {web : Web} {s : Sink σ}

/-- The pages that were asked for, in order. -/
def visited (c : Crawl σ) : List Url :=
  c.requests.map Prod.fst

/-- What holds of a crawl without a page limit before each turn of its run. -/
structure Explores (seeding : Seeding) (web : Web) (c : Crawl σ) : Prop where
  /-- What was found and not visited waits. -/
  tracks : c.frontier.Tracks c.visited (seeding.found web c.visited)
  /-- The root page waits to be read as such, and no other page does. -/
  stages : ∀ task ∈ c.frontier.queue, task.stage = seeding.stageOf task.url
  order : seeding.InOrder web c.visited
  limit : c.maxPages = none

theorem map_url_tasks (urls : List Url) (stage : CrawlStage) :
    (urls.map fun url => CrawlTask.mk url stage).map CrawlTask.url = urls := by
  rw [List.map_map]
  exact List.map_id _

theorem run_start (seeding : Seeding) (label : String) (delay : Nat) (sink : σ)
    (batchSize turns : Nat) :
    let c := seeding.start (fresh label none { delay } sink batchSize)
    c.run web s none turns = c.runFor web s none turns := by
  cases seeding <;> rfl

theorem visited_start (seeding : Seeding) (label : String) (delay : Nat) (sink : σ)
    (batchSize : Nat) :
    (seeding.start (fresh label none { delay } sink batchSize)).visited = [] := by
  cases seeding <;> rfl

theorem explores_start (seeding : Seeding) (web : Web) (label : String) (delay : Nat) (sink : σ)
    (batchSize : Nat) :
    (seeding.start (fresh label none { delay } sink batchSize)).Explores seeding web := by
  have hempty : ({ delay } : Frontier).Tracks [] [] := ⟨rfl, fun _ => Iff.rfl⟩
  cases seeding with
  | root url =>
    refine ⟨?_, ?_, fun n hn => absurd hn n.not_lt_zero, rfl⟩
    · exact Seeding.found_nil (.root url) web ▸ hempty.push ⟨url, .categoryDiscovery⟩
    · intro task htask
      obtain htask | ⟨rfl, -⟩ := Frontier.mem_queue_push htask
      · exact absurd htask List.not_mem_nil
      · simp [Seeding.stageOf, Seeding.isRoot]
  | categories urls =>
    refine ⟨?_, ?_, fun n hn => absurd hn n.not_lt_zero, rfl⟩
    · have htracks := hempty.pushAll (urls.map fun url => ⟨url, .productExtraction⟩)
      rw [map_url_tasks, List.nil_append] at htracks
      exact Seeding.found_nil (.categories urls) web ▸ htracks
    · intro task htask
      obtain htask | ⟨htask, -⟩ := Frontier.mem_queue_pushAll htask
      · exact absurd htask List.not_mem_nil
      · obtain ⟨url, -, rfl⟩ := List.mem_map.1 htask
        rfl

theorem visited_receive {c d : Crawl σ} {task : CrawlTask} {result : Except WriteFailure Unit}
    (h : (c.taken.answered web task).receive s task (web task.url).body = (result, d)) :
    d.visited = c.visited ++ [task.url] := by
  have hrequests := requests_receive s task (web task.url).body (c.taken.answered web task)
  rw [h] at hrequests
  exact (congrArg (List.map Prod.fst) hrequests).trans List.map_append

/-- A page that is visited is the next in the order. -/
theorem Explores.receive {c d : Crawl σ} {task : CrawlTask} {rest : List CrawlTask}
    (h : c.Explores seeding web) (next : c.frontier.queue = task :: rest)
    (receive : (c.taken.answered web task).receive s task (web task.url).body = (.ok (), d)) :
    d.Explores seeding web := by
  have hvisited : d.visited = c.visited ++ [task.url] := visited_receive receive
  have hstage : task.stage = seeding.stageOf task.url := h.stages task (by simp [next])
  have hfrontier := frontier_receive_of_ok receive
  rw [Seeding.leadsTo_eq hstage] at hfrontier
  refine ⟨?_, ?_, ?_, ?_⟩
  · have htracks := ((h.tracks.rest next).letThrough (c.frontier.rest.turn c.clock)).pushAll
      ((seeding.discovers web task.url).map fun url => ⟨url, .productExtraction⟩)
    rw [map_url_tasks, ← Seeding.found_concat, ← hvisited] at htracks
    rw [hfrontier]
    exact htracks
  · intro t ht
    rw [hfrontier] at ht
    obtain ht | ⟨ht, hnew⟩ := Frontier.mem_queue_pushAll ht
    · exact h.stages t (List.mem_of_mem_tail ht)
    · obtain ⟨url, -, rfl⟩ := List.mem_map.1 ht
      -- The root page was found at the start, so it is never found anew.
      have hseed : url.pageKey ∉ seeding.urls.map Url.pageKey := by
        intro hkey
        refine hnew ((h.tracks.seen _).2 ?_)
        rw [Seeding.found, List.map_append]
        exact List.mem_append_left _ hkey
      simp [Seeding.stageOf, Seeding.isRoot_eq_false hseed]
  · rw [hvisited, Seeding.inOrder_concat, ← h.tracks.order, next, List.map_cons]
    exact ⟨h.order, rest.map CrawlTask.url, by simp⟩
  · have hlimit := maxPages_receive s task (web task.url).body (c.taken.answered web task)
    rw [receive] at hlimit
    exact hlimit.trans h.limit

/-- A turn visits the next page in the order, or there is none. -/
theorem Explores.step {c d : Crawl σ} {result : Option (Except RunFailure Tally)}
    (h : c.Explores seeding web) (accepts : s.AcceptsAll)
    (hstep : c.step web s none = (result, d)) :
    (result = none ∧ d.Explores seeding web) ∨
      (∃ tally, result = some (.ok tally)) ∧ d.visited = c.visited ∧ c.frontier.queue = [] := by
  generalize hv : c.visit? web s none = visit
  cases turn_of_step hv hstep with
  | finished hend =>
    obtain ⟨tally, htally⟩ := finish_of_acceptsAll accepts c
    have hqueue : c.frontier.queue = [] := by simpa [limitReached, h.limit] using hend
    have hvisited : (c.finish s).2.visited = c.visited :=
      congrArg (List.map Prod.fst) (requests_finish s c)
    exact Or.inr ⟨⟨tally, congrArg some htally⟩, hvisited, hqueue⟩
  | stopped _ _ hstop => simp [isStopped] at hstop
  | @skipped task _ next _ stage =>
    have hstage : task.stage = seeding.stageOf task.url := h.stages task (by simp [next])
    rw [hstage, Seeding.handlesPages_stageOf] at stage
    exact absurd stage (by decide)
  | interrupted _ _ _ await => simp [await_none] at await
  | visited next _ _ receive => exact Or.inl ⟨rfl, h.receive next receive⟩
  | @failed task _ _ _ _ _ _ receive =>
    have hok := receive_of_acceptsAll accepts task (web task.url).body (c.taken.answered web task)
    simp [receive] at hok

/-- When a run ends, nothing that was found is left. -/
theorem Explores.runFor {turns : Nat} {c d : Crawl σ} {result : Except RunFailure Tally}
    (h : c.Explores seeding web) (accepts : s.AcceptsAll)
    (hrun : c.runFor web s none turns = (some result, d)) :
    (∃ tally, result = .ok tally) ∧ seeding.InOrder web d.visited ∧
      firstBy Url.pageKey (seeding.found web d.visited) = d.visited := by
  induction turns generalizing c with
  | zero => simp [Crawl.runFor] at hrun
  | succ turns ih =>
    rw [Crawl.runFor] at hrun
    cases hstep : c.step web s none with
    | mk ended e =>
      obtain ⟨rfl, hnext⟩ | ⟨⟨tally, rfl⟩, hvisited, hqueue⟩ := h.step accepts hstep
      · rw [hstep] at hrun
        exact ih hnext hrun
      · rw [hstep] at hrun
        obtain ⟨hresult, rfl⟩ := Prod.mk.inj hrun
        have htracks := h.tracks.order
        rw [hqueue, List.map_nil, List.append_nil] at htracks
        rw [hvisited]
        exact ⟨⟨tally, (Option.some.inj hresult).symm⟩, h.order, htracks.symm⟩

/-! ## Finitely many pages -/

/-- Each page has one set of links, whatever the URL that it is asked for under. -/
theorem exists_keys_of_linksOf (fixed : web.IgnoresFragments) (pages : List Url) :
    ∃ keys : Finset String, ∀ url : Url, url.IsRegular → url.pageKey ∈ pages.map Url.pageKey →
      ∀ link ∈ Site.linksOf url (web url), link.pageKey ∈ keys := by
  induction pages with
  | nil => exact ⟨∅, by simp⟩
  | cons page pages ih =>
    obtain ⟨keys, hkeys⟩ := ih
    by_cases hpage : ∃ u : Url, u.IsRegular ∧ u.pageKey = page.pageKey
    · obtain ⟨u, hu, hukey⟩ := hpage
      refine ⟨((Site.linksOf u (web u)).map Url.pageKey).toFinset ∪ keys, ?_⟩
      intro url hurl hkey link hlink
      rw [List.map_cons, List.mem_cons] at hkey
      rw [Finset.mem_union, List.mem_toFinset]
      obtain hkey | hkey := hkey
      · rw [Site.map_pageKey_linksOf fixed hu hurl (hukey.trans hkey.symm)]
        exact Or.inl (List.mem_map_of_mem hlink)
      · exact Or.inr (hkeys url hurl hkey link hlink)
    · refine ⟨keys, fun url hurl hkey => ?_⟩
      rw [List.map_cons, List.mem_cons] at hkey
      exact hkeys url hurl (hkey.resolve_left fun heq => hpage ⟨url, hurl, heq⟩)

theorem exists_closed (fixed : web.IgnoresFragments) {pages : List Url}
    (finite : ∀ url : Url, url.pageKey ∉ pages.map Url.pageKey → ∃ e, (web url).body = .error e) :
    ∃ keys : Finset String, Closed web (fun task => task.url.IsRegular) keys := by
  obtain ⟨keys, hkeys⟩ := exists_keys_of_linksOf fixed pages
  refine ⟨keys, fun task htask next hnext => ?_⟩
  have hlink := url_mem_linksOf hnext
  refine ⟨Site.isRegular_of_mem_linksOf htask _ hlink, ?_⟩
  by_cases hpage : task.url.pageKey ∈ pages.map Url.pageKey
  · exact hkeys _ htask hpage _ hlink
  · obtain ⟨e, he⟩ := finite _ hpage
    simp [Site.linksOf, he] at hlink

/-- **A crawl visits the reachable pages, each once and in the order in which they are found.** The
web answers all URLs of a page alike, and all but finitely many pages are missing; the crawl begins
with the root page or with any categories, has no page limit and is not stopped, and its sink
accepts all. Then the run ends, no page is asked for twice, those that are asked for are the least
set that contains the first pages and what its pages lead to, and each is the next of those found on
the way through the ones before. -/
theorem visits_reachable_pages_once {web : Web} (fixed : web.IgnoresFragments) {pages : List Url}
    (finite : ∀ url : Url, url.pageKey ∉ pages.map Url.pageKey → ∃ e, (web url).body = .error e)
    {seeding : Seeding} (seeds : ∀ url ∈ seeding.urls, ∃ text, Url.parse text = .ok url)
    {s : Sink σ} (accepts : s.AcceptsAll) (label : String) (delay : Nat) (sink : σ)
    (batchSize : Nat) :
    let start := seeding.start (fresh label none { delay } sink batchSize)
    ∃ turns tally d, start.run web s none turns = (some (.ok tally), d) ∧
      (d.visited.map Url.pageKey).Nodup ∧
      (∀ key, key ∈ d.visited.map Url.pageKey ↔
        ∃ url, seeding.Reachable web url ∧ url.pageKey = key) ∧
      d.visited = firstBy Url.pageKey (seeding.found web d.visited) ∧
      seeding.InOrder web d.visited := by
  intro start
  have hregular : ∀ url ∈ seeding.urls, url.IsRegular := by
    intro url hurl
    obtain ⟨text, htext⟩ := seeds url hurl
    exact Url.isRegular_parse htext
  have hstart : start.Explores seeding web := explores_start seeding web label delay sink batchSize
  have hqueue : ∀ task ∈ start.frontier.queue, task.url.IsRegular := by
    intro task htask
    have hfound : task.url ∈ firstBy Url.pageKey (seeding.found web start.visited) := by
      rw [← hstart.tracks.order]
      exact List.mem_append_right _ (List.mem_map_of_mem htask)
    have hvisited : start.visited = [] := visited_start seeding label delay sink batchSize
    rw [hvisited, Seeding.found_nil] at hfound
    exact hregular _ (mem_of_mem_firstBy hfound)
  obtain ⟨keys, hclosed⟩ := exists_closed fixed finite
  obtain ⟨result, d, hrun, -⟩ := runFor_of_closed hclosed s none hqueue (Nat.lt_succ_self _)
  obtain ⟨⟨tally, rfl⟩, horder, hall⟩ := hstart.runFor accepts hrun
  rw [← run_start] at hrun
  have hreach := horder.reachable
  refine ⟨_, tally, d, hrun, ?_, fun key => ⟨?_, ?_⟩, hall.symm, horder⟩
  · rw [← hall]
    exact nodup_map_firstBy _
  · intro hkey
    obtain ⟨url, hurl, rfl⟩ := List.mem_map.1 hkey
    exact ⟨url, hreach url hurl, rfl⟩
  · rintro ⟨url, hurl, rfl⟩
    exact hurl.pageKey_mem fixed hregular hreach hall

/-- A shop on the own machine, with a category that links back to the root page and to a part of
itself. -/
theorem visits_circular_shop_once :
    let host : Url.Host := .ipv6 [0, 0, 0, 0, 0, 0, 0, 1]
    let root : Url := { scheme := "http", host := some host, path := .segments [""] }
    let category : Url := { root with path := .segments ["b"] }
    let home := "<div id=ProductsMaster><li class=leaf><a class=name href=/b>b</a></div>"
    let list := "<p id=CompoundPagingBottom><a class=page href=/>1</a><a class=page href=/b#t>2</a>"
    let answer : String → Reply := fun key =>
      if key == "http://[::1]/" then { body := .ok home }
      else if key == "http://[::1]/b" then { body := .ok list }
      else { body := .error (.status key 404) }
    let web : Web := fun url => answer url.pageKey
    let seeding := Seeding.root root
    let s : Sink Unit := ⟨fun _ _ => (.ok (), ())⟩
    let start := seeding.start (fresh "Skladem" none { delay := 500 } () 10)
    web.IgnoresFragments ∧
      (∀ url : Url, url.pageKey ∉ [root, category].map Url.pageKey →
        ∃ e, (web url).body = .error e) ∧
      (∀ url ∈ seeding.urls, ∃ text, Url.parse text = .ok url) ∧ s.AcceptsAll ∧
      ∃ turns tally d, start.run web s none turns = (some (.ok tally), d) ∧
        (d.visited.map Url.pageKey).Nodup ∧
        (∀ key, key ∈ d.visited.map Url.pageKey ↔
          ∃ url, seeding.Reachable web url ∧ url.pageKey = key) ∧
        d.visited = firstBy Url.pageKey (seeding.found web d.visited) ∧
        seeding.InOrder web d.visited := by
  intro host root category home list answer web seeding s start
  have fixed : web.IgnoresFragments := fun u v h => by simp only [web, h]
  have finite : ∀ url : Url, url.pageKey ∉ [root, category].map Url.pageKey →
      ∃ e, (web url).body = .error e := by
    intro url hurl
    have hroot : root.pageKey = "http://[::1]/" := by decide +kernel
    have hcategory : category.pageKey = "http://[::1]/b" := by decide +kernel
    simp only [List.map_cons, List.map_nil, hroot, hcategory, List.mem_cons, List.not_mem_nil,
      or_false, not_or] at hurl
    exact ⟨.status url.pageKey 404, by simp [web, answer, hurl.1, hurl.2]⟩
  have seeds : ∀ url ∈ seeding.urls, ∃ text, Url.parse text = .ok url := by
    intro url hurl
    obtain rfl : url = root := List.mem_singleton.1 hurl
    exact ⟨"http://[::1]/", by decide +kernel⟩
  have accepts : s.AcceptsAll := fun _ _ => rfl
  exact ⟨fixed, finite, seeds, accepts,
    visits_reachable_pages_once fixed finite seeds accepts "Skladem" 500 () 10⟩

end Crawl

end PriceTracker
