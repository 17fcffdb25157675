import PriceTracker.Proofs.Crawl.Answers
import PriceTracker.Proofs.Crawl.References
import PriceTracker.Proofs.Crawl.Termination
import PriceTracker.Proofs.Delivery.Trace

/-!
# The addresses that a crawl uses

A crawl asks for the pages that it is seeded with and for those that references lead to, and writes
the addresses that references give. Pages may hold any references, and webs may change between runs.

* `WebOnly` is the invariant: but for the seeds, all that waits or was asked for is a web page, and
  so are the addresses of all records;
* `WebOnly.step`: a turn keeps it, as a page adds nothing else; so do runs and actions;
* `only_web_pages`: so nothing but web pages gets into the crawl or to the sink.
-/

namespace PriceTracker.Crawl

open RecordBuffer

variable {σ : Type} {web : Web} {s : Sink σ} {stop : Option Nat} {c d : Crawl (Trace σ)}
  {seeds : List Url}

/-- The URLs that an action queues. -/
def Action.seedUrls : Action → List Url
  | .seedRoot url => [url]
  | .seedCategories urls => urls
  | _ => []

/-- But for the seeds, there are web pages only. -/
structure WebOnly (seeds : List Url) (c : Crawl (Trace σ)) : Prop where
  queue : ∀ task ∈ c.frontier.queue, task.url ∈ seeds ∨ task.url.IsWebPage
  requests : ∀ request ∈ c.requests, request.1 ∈ seeds ∨ request.1.IsWebPage
  records : c.buffer.OfKind ProductRecord.HasWebAddresses

namespace WebOnly

theorem taken (h : c.WebOnly seeds) : c.taken.WebOnly seeds :=
  ⟨fun task htask => h.queue task (List.mem_of_mem_tail htask), h.requests, h.records⟩

theorem finish (h : c.WebOnly seeds) : (c.finish s.traced).2.WebOnly seeds := by
  refine ⟨?_, ?_, (keeps_ofKind s _).finish h.records⟩
  · rw [frontier_finish]
    exact h.queue
  · rw [requests_finish]
    exact h.requests

/-- The request of a waiting page. -/
theorem answered (h : c.WebOnly seeds) {task : CrawlTask}
    (htask : task.url ∈ seeds ∨ task.url.IsWebPage) : (c.answered web task).WebOnly seeds := by
  refine ⟨h.queue, ?_, h.records⟩
  rw [Crawl.answered, List.forall_mem_append, List.forall_mem_singleton]
  exact ⟨h.requests, htask⟩

theorem of_await (h : c.WebOnly seeds) {task : CrawlTask}
    (htask : task.url ∈ seeds ∨ task.url.IsWebPage) (hawait : c.await web stop task = (none, d)) :
    d.WebOnly seeds := by
  obtain hd | hd := await_eq_none hawait
  · rw [hd]
    exact ⟨h.queue, h.requests, h.records⟩
  · rw [hd]
    have hanswered : (c.answered web task).WebOnly seeds := h.answered htask
    exact ⟨hanswered.queue, hanswered.requests, hanswered.records⟩

/-- **A page adds web pages only**, and records with their addresses only. -/
theorem receive (h : c.WebOnly seeds) {task : CrawlTask} {body : Except FetchError String}
    {result : Except WriteFailure Unit} (htask : task.url.isWeb = true → task.url.IsWebPage)
    (hreceive : c.receive s.traced task body = (result, d)) : d.WebOnly seeds := by
  have hblocks : ∀ r ∈ recordsOf (task.blocks c.label body), r.HasWebAddresses :=
    CrawlTask.hasWebAddresses_of_mem_blocks htask
  have hrecords := (keeps_ofKind s _).receive_of_blocks h.records hblocks
  have hrequests := requests_receive s.traced task body c
  rw [hreceive] at hrecords hrequests
  refine ⟨?_, ?_, hrecords⟩
  · cases result with
    | error failure =>
      rw [frontier_receive_of_error hreceive]
      exact h.queue
    | ok =>
      rw [frontier_receive_of_ok hreceive]
      intro t ht
      obtain ht | ⟨ht, -⟩ := Frontier.mem_queue_pushAll ht
      · exact h.queue t ht
      · exact Or.inr (CrawlTask.isWebPage_of_mem_leadsTo htask ht)
  · rw [hrequests]
    exact h.requests

theorem step (read : ∀ url ∈ seeds, ∃ text, Url.parse text = .ok url) (web : Web) (s : Sink σ)
    (stop : Option Nat) (h : c.WebOnly seeds) : (c.step web s.traced stop).2.WebOnly seeds := by
  have hread : ∀ {url : Url}, url ∈ seeds ∨ url.IsWebPage → url.isWeb = true → url.IsWebPage := by
    intro url hurl hweb
    obtain hseed | hpage := hurl
    · obtain ⟨text, htext⟩ := read url hseed
      exact Url.isWebPage_parse htext hweb
    · exact hpage
  have htaken := h.taken
  generalize hv : c.visit? web s.traced stop = visit
  generalize hstep : c.step web s.traced stop = result
  cases turn_of_step hv hstep with
  | finished => exact h.finish
  | stopped => exact ⟨htaken.queue, htaken.requests, htaken.records⟩
  | skipped => exact htaken
  | interrupted next _ _ await =>
    have htask := h.queue _ (next ▸ List.mem_cons_self)
    have hd := htaken.of_await htask await
    exact ⟨hd.queue, hd.requests, hd.records⟩
  | visited next _ _ receive =>
    have htask := h.queue _ (next ▸ List.mem_cons_self)
    exact (htaken.answered htask).receive (hread htask) receive
  | failed next _ _ receive =>
    have htask := h.queue _ (next ▸ List.mem_cons_self)
    exact (htaken.answered htask).receive (hread htask) receive

/-! ## Runs and actions -/

theorem act (read : ∀ url ∈ seeds, ∃ text, Url.parse text = .ok url) (h : c.WebOnly seeds)
    {action : Action} (hseeds : ∀ url ∈ action.seedUrls, url ∈ seeds) :
    (c.act s.traced action).WebOnly seeds := by
  cases action with
  | seedRoot url =>
    refine ⟨fun t ht => ?_, h.requests, h.records⟩
    obtain ht | ⟨rfl, -⟩ := Frontier.mem_queue_push ht
    · exact h.queue t ht
    · exact Or.inl (hseeds _ List.mem_cons_self)
  | seedCategories urls =>
    refine ⟨fun t ht => ?_, h.requests, h.records⟩
    obtain ht | ⟨ht, -⟩ := Frontier.mem_queue_pushAll ht
    · exact h.queue t ht
    · obtain ⟨url, hurl, rfl⟩ := List.mem_map.1 ht
      exact Or.inl (hseeds url hurl)
  | flush => exact ⟨h.queue, h.requests, (keeps_ofKind s _).flush h.records⟩
  | run web stop turns =>
    rw [Crawl.act, run]
    split
    · exact h
    · exact runFor_keeps (I := WebOnly seeds) (fun _ => step read web s stop) h turns

theorem actAll (read : ∀ url ∈ seeds, ∃ text, Url.parse text = .ok url) (h : c.WebOnly seeds)
    {actions : List Action} (hseeds : ∀ url ∈ actions.flatMap Action.seedUrls, url ∈ seeds) :
    (c.actAll s.traced actions).WebOnly seeds := by
  induction actions generalizing c with
  | nil => exact h
  | cons action actions ih =>
    rw [List.flatMap_cons, List.forall_mem_append] at hseeds
    exact ih (h.act read hseeds.1) hseeds.2

end WebOnly

/-- **Nothing but web pages gets into a crawl or to its sink.** A crawl is seeded, run, stopped,
flushed and seeded again in any order, on any webs. Its pages may hold any references, and its sink
may do anything. The seeds are URLs that were read from texts. Then every page that is asked for is
one of the seeds or a web page, and every record that the sink is called with, whether it accepts
the batch or not, has the written form of the URL of a web page as its address, and as that of its
image if there is one. A reference that is blank, leads to a part of the page, is a script in
whatever spelling, leads to no web page or cannot be read adds no link, no record and no image. -/
theorem only_web_pages (s : Sink σ) (state : σ) (label : String) (maxPages : Option Nat)
    (delay batchSize : Nat) {actions : List Action}
    (read : ∀ url ∈ actions.flatMap Action.seedUrls, ∃ text, Url.parse text = .ok url) :
    let start := fresh label maxPages { delay } ({ state } : Trace σ) batchSize
    let c := start.actAll s.traced actions
    (∀ request ∈ c.requests,
        request.1 ∈ actions.flatMap Action.seedUrls ∨ request.1.IsWebPage) ∧
      (∀ call ∈ c.buffer.sink.calls, ∀ r ∈ call.1, r.HasWebAddresses) ∧
      ∀ base reference, Catalog.LeadsNowhere base reference → Catalog.Ignores base reference := by
  intro start c
  have hstart : start.WebOnly (actions.flatMap Action.seedUrls) :=
    ⟨List.forall_mem_nil _, List.forall_mem_nil _, List.forall_mem_nil _, List.forall_mem_nil _⟩
  have hend : c.WebOnly (actions.flatMap Action.seedUrls) := hstart.actAll read fun _ h => h
  exact ⟨hend.requests, hend.records.calls, fun _ _ => Catalog.ignores_of_leadsNowhere⟩

/-- A root page with a stray reference, a script and a category with a bell. -/
theorem bell_behind_stray_references :
    let root : Url :=
      { scheme := "http", host := some (.ipv6 [0, 0, 0, 0, 0, 0, 0, 1]), path := .segments [""] }
    let link (reference : String) : String :=
      "<li class=leaf><a class=name href=\"" ++ reference ++ "\">x</a>"
    let references := ["#b", "java\tScript:b()", " /b "]
    let home := "<div id=ProductsMaster>" ++ String.join (references.map link) ++ "</div>"
    let web : Web := fun url =>
      { body := .ok (if url.pageKey == root.pageKey then home else shelf [("1", "Bell")]) }
    let s : Sink Unit := ⟨fun _ _ => (.ok (), ())⟩
    let actions : List Action := [.seedRoot root, .run web none 3]
    (∀ url ∈ actions.flatMap Action.seedUrls, ∃ text, Url.parse text = .ok url) ∧
      let start := fresh "Skladem" none { delay := 500 } ({ state := () } : Trace Unit) 1
      let c := start.actAll s.traced actions
      (∀ request ∈ c.requests,
          request.1 ∈ actions.flatMap Action.seedUrls ∨ request.1.IsWebPage) ∧
        (∀ call ∈ c.buffer.sink.calls, ∀ r ∈ call.1, r.HasWebAddresses) ∧
        ∀ base reference, Catalog.LeadsNowhere base reference → Catalog.Ignores base reference := by
  intro root link references home web s actions
  have read : ∀ url ∈ actions.flatMap Action.seedUrls, ∃ text, Url.parse text = .ok url := by
    intro url hurl
    obtain rfl : url = root := List.mem_singleton.1 hurl
    exact ⟨"http://[::1]/", by decide +kernel⟩
  exact ⟨read, only_web_pages s () "Skladem" none 500 1 read⟩

end PriceTracker.Crawl
