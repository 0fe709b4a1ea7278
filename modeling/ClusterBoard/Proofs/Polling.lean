import Mathlib
import ClusterBoard.Proofs.Page.ErrorRegion
import ClusterBoard.Proofs.Web.Replies
import ClusterBoard.Report

/-!
# Polling a report

A report keeps what it last loaded and nothing else. `Poller` states this of one poll, for the jobs
and for the nodes; by induction every poll of a run shows what a new report would show of the last
fields that came, under a message if the poll failed (`Poller.run_polls`). That is the view of these
fields, of which the report itself is no part (`JobsOptions.view`, `nodesView`). The run is made
against a script, which also tells what the server was asked (`polls_recall`).
-/

namespace ClusterBoard

open Web

/-! ## Polls against a script -/

/-- A server that gives replies from a list and keeps what it was asked. -/
structure Script where
  replies : List Reply
  asked : List Url

/-- The next reply of the script; after the last one no connection is made. -/
def Script.serve (url : Url) : StateM Script Reply := fun script =>
  (script.replies.headD .none, ⟨script.replies.tail, script.asked ++ [url]⟩)

/-- What polls show, one after the other. -/
def polls {σ : Type} (poll : σ → StateM Script (σ × Rendered)) :
    Nat → σ → StateM Script (List Rendered)
  | 0, _ => return []
  | count + 1, report => do
    let (report, rendered) ← poll report
    let rest ← polls poll count report
    return rendered :: rest

theorem run_polls_succ {σ : Type} (poll : σ → StateM Script (σ × Rendered)) (count : Nat)
    (report : σ) (script : Script) :
    (polls poll (count + 1) report).run script =
      let first := (poll report).run script
      let rest := (polls poll count first.1.1).run first.2
      (first.1.2 :: rest.1, rest.2) := rfl

/-- The fields that the last of the replies with fields brings. -/
def lastFields? (replies : List Reply) : Option Json.Fields :=
  (replies.filterMap Reply.fields?).getLast?

theorem lastFields?_cons (reply : Reply) (replies : List Reply) :
    lastFields? (reply :: replies) = (lastFields? replies).or reply.fields? := by
  unfold lastFields?
  cases h : reply.fields? with
  | none => rw [List.filterMap_cons_none h, Option.or_none]
  | some fields =>
    rw [List.filterMap_cons_some h, List.getLast?_cons]
    cases (replies.filterMap Reply.fields?).getLast? <;> rfl

theorem lastFields?_take_succ (replies : List Reply) (n : Nat) :
    lastFields? (replies.take (n + 1)) =
      (lastFields? (replies.tail.take n)).or (replies.headD .none).fields? := by
  cases replies with
  | nil =>
    rw [List.tail_nil, List.take_nil, List.take_nil]
    rfl
  | cons reply replies =>
    rw [List.take_succ_cons, lastFields?_cons, List.tail_cons, List.headD_cons]

/-! ## Views of a payload -/

/-- The pager of a payload, at the user and on the page that are asked for. -/
def JobsOptions.pager (options : JobsOptions) (fields : Json.Fields) : Pager :=
  let loaded := Pager.ofJobs (.ofRecords (Collection.decoded JobRecord fields))
  let focused := (options.user.map loaded.select).getD loaded
  (options.page.map focused.atPage).getD focused

/-- The jobs of a payload, with a message. -/
def JobsOptions.view (options : JobsOptions) (client : Client) (fields : Json.Fields)
    (message : Option String) : String :=
  let pager := options.pager fields
  if options.html then Page.jobsDocument pager.navigation pager.user pager.view message
  else
    (message.map Terminal.fetchErrorText).getD "" ++
      Terminal.jobsPageText client.resolve pager.navigation pager.user pager.view

/-- The nodes of a payload, with a message. -/
def nodesView (html : Bool) (fields : Json.Fields) (message : Option String) : String :=
  let table := NodeTable.ofNodes (.ofRecords (Collection.decoded NodeRecord fields))
  if html then Page.nodesDocument table message
  else (message.map Terminal.fetchErrorText).getD "" ++ Terminal.nodesText table

theorem JobsReport.load_decoded (options : JobsOptions) (fields : Json.Fields) :
    load options (.ofRecords (Collection.decoded JobRecord fields)) =
      ⟨options.pager fields, (options.pager fields).view⟩ := by
  unfold load JobsOptions.pager
  cases options.user <;> cases options.page <;> rfl

/-! ## What one poll does -/

/-- A kind of report: fields replace all that was loaded, and a failure keeps it. -/
structure Poller (σ : Type) where
  url : Url
  initial : σ
  load : Json.Fields → σ
  render : σ → Option String → String
  poll : σ → Reply → σ × Rendered
  poll_of_fields : ∀ {reply fields}, reply.fields? = some fields → ∀ report,
    poll report reply = (load fields, ⟨render (load fields) none, none⟩)
  poll_of_no_fields : ∀ {reply}, reply.fields? = none → ∀ report, ∃ e,
    poll report reply = (report, ⟨render report (some fetchFailedMessage), some e⟩)

/-- The jobs report. -/
def JobsReport.poller (options : JobsOptions) (client : Client) : Poller JobsReport where
  url := client.jobsUrl options.scope
  initial := .initial
  load fields := load options (.ofRecords (Collection.decoded JobRecord fields))
  render := render options client
  poll := poll options client
  poll_of_fields h report := by
    unfold poll
    rw [Client.fetchJobs, Client.readCollection_of_fields h]
    rfl
  poll_of_no_fields {reply} h report := by
    have hfetch : ∃ e, client.fetchJobs options.scope reply = .error e :=
      Client.readCollection_of_no_fields h
    obtain ⟨e, he⟩ := hfetch
    refine ⟨e, ?_⟩
    unfold poll
    rw [he]
    rfl

/-- The nodes report. -/
def NodesReport.poller (html : Bool) (client : Client) : Poller NodesReport where
  url := client.nodesUrl
  initial := .initial
  load fields := ⟨.ofNodes (.ofRecords (Collection.decoded NodeRecord fields))⟩
  render := render html
  poll := poll html client
  poll_of_fields h report := by
    unfold poll
    rw [Client.fetchNodes, Client.readCollection_of_fields h]
    rfl
  poll_of_no_fields {reply} h report := by
    have hfetch : ∃ e, client.fetchNodes reply = .error e := Client.readCollection_of_no_fields h
    obtain ⟨e, he⟩ := hfetch
    refine ⟨e, ?_⟩
    unfold poll
    rw [he]
    rfl

namespace Poller

variable {σ : Type} (p : Poller σ)

/-- The report after fields came, or the one with nothing loaded. -/
def holding (last : Option Json.Fields) : σ := (last.map p.load).getD p.initial

/-- What is shown of the last fields that came, after a poll that brought fields or failed. -/
def shown (last : Option Json.Fields) (failed : Bool) : String :=
  p.render (p.holding last) (if failed then some fetchFailedMessage else none)

/-- One poll of a server. -/
def pollFrom (report : σ) : StateM Script (σ × Rendered) := do
  let reply ← Script.serve p.url
  return p.poll report reply

/-- What a poll gives after which the last fields that came are `last`. -/
structure Shows (last : Option Json.Fields) (reply : Reply) (rendered : Rendered) : Prop where
  output_eq : rendered.output = p.shown last reply.fields?.isNone
  error_iff : rendered.error.isSome ↔ reply.Fails

/-- A poll loads the fields that it brings and shows what is loaded then. -/
theorem poll_holding (last : Option Json.Fields) (reply : Reply) : ∃ rendered,
    p.poll (p.holding last) reply = (p.holding (reply.fields?.or last), rendered) ∧
      p.Shows (reply.fields?.or last) reply rendered := by
  cases h : reply.fields? with
  | none =>
    obtain ⟨e, he⟩ := p.poll_of_no_fields h (p.holding last)
    refine ⟨_, he, ?_, iff_of_true rfl (fails_iff.mpr h)⟩
    rw [h]
    rfl
  | some fields =>
    refine ⟨_, p.poll_of_fields h _, ?_, iff_of_false Bool.false_ne_true fun hf => ?_⟩
    · rw [h]
      rfl
    · rw [fails_iff, h] at hf
      exact Option.some_ne_none fields hf

/-- A run of polls asks for one URL, once a poll, and each poll shows the last fields so far. -/
theorem run_polls (count : Nat) (last : Option Json.Fields) (script : Script) : ∃ rendered,
    (polls p.pollFrom count (p.holding last)).run script =
      (rendered, ⟨script.replies.drop count, script.asked ++ List.replicate count p.url⟩) ∧
    rendered.length = count ∧ ∀ n r, rendered[n]? = some r →
      p.Shows ((lastFields? (script.replies.take (n + 1))).or last)
        (script.replies.getD n .none) r := by
  -- What one poll leaves is again a report that holds the last fields so far.
  induction count generalizing last script with
  | zero =>
    refine ⟨[], ?_, rfl, fun n r hr => by simp at hr⟩
    rw [List.drop_zero, List.replicate_zero, List.append_nil]
    rfl
  | succ count ih =>
    obtain ⟨first, hpoll, hfirst⟩ := p.poll_holding last (script.replies.headD .none)
    obtain ⟨rest, hrun, hlength, hrest⟩ :=
      ih ((script.replies.headD .none).fields?.or last)
        ⟨script.replies.tail, script.asked ++ [p.url]⟩
    refine ⟨first :: rest, ?_, by rw [List.length_cons, hlength], ?_⟩
    · have hfirst : (p.pollFrom (p.holding last)).run script =
          ((p.holding ((script.replies.headD .none).fields?.or last), first),
            ⟨script.replies.tail, script.asked ++ [p.url]⟩) := by
        rw [← hpoll]
        rfl
      rw [run_polls_succ, hfirst]
      simp only [hrun]
      rw [List.drop_tail, List.append_assoc, List.singleton_append, List.replicate_succ]
    · rintro (_ | n) r hr
      · obtain rfl : first = r := by simpa using hr
        have hreply : script.replies.getD 0 .none = script.replies.headD .none := by
          cases script.replies <;> rfl
        rw [lastFields?_take_succ, List.take_zero, hreply]
        exact hfirst
      · have hreply : script.replies.getD (n + 1) .none = script.replies.tail.getD n .none := by
          cases script.replies <;> rfl
        rw [lastFields?_take_succ, Option.or_assoc, hreply]
        exact hrest n r (by simpa using hr)

/-! ## The theorem -/

/-- What a report shows of a payload is the view of that payload, as in a new report, and a failure
adds its message. -/
structure Recalls (html : Bool) (view : Json.Fields → Option String → String) : Prop where
  /-- A run asks for one URL, once a poll. -/
  asked : ∀ replies count,
    ((polls p.pollFrom count p.initial).run ⟨replies, []⟩).2.asked = List.replicate count p.url
  length_eq : ∀ replies count,
    ((polls p.pollFrom count p.initial).run ⟨replies, []⟩).1.length = count
  /-- What a poll of a run shows depends on the last fields so far and on whether it failed. -/
  shows : ∀ replies count n r,
    ((polls p.pollFrom count p.initial).run ⟨replies, []⟩).1[n]? = some r →
      p.Shows (lastFields? (replies.take (n + 1))) (replies.getD n .none) r
  shown_payload : ∀ fields failed,
    p.shown (some fields) failed = view fields (if failed then some fetchFailedMessage else none)
  /-- The first poll of a new report shows the same of a reply with these fields. -/
  fresh : ∀ reply fields, reply.fields? = some fields →
    (p.poll p.initial reply).2 = ⟨p.shown (some fields) false, none⟩
  /-- Before any fields came nothing is shown as loaded. -/
  blank : p.shown none false = p.render p.initial none
  /-- In text the message stands in a line above. -/
  text : html = false → ∀ last,
    p.shown last true = Terminal.fetchErrorText fetchFailedMessage ++ p.shown last false
  /-- On a page it is what the region holds. -/
  region : html = true → ∃ above, ∀ last, ∃ below,
    p.shown last false = Page.withRegion above "" below ∧
      p.shown last true = Page.withRegion above fetchFailedMessage below

variable {p}

theorem recalls {html : Bool} {view : Json.Fields → Option String → String}
    (payload : ∀ fields message, p.render (p.load fields) message = view fields message)
    (text : html = false → ∀ report, p.render report (some fetchFailedMessage) =
      Terminal.fetchErrorText fetchFailedMessage ++ p.render report none)
    (region : html = true → ∃ above, ∀ report, ∃ below, ∀ message, p.render report message =
      Page.withRegion above (Page.escape (message.getD "")) below) : p.Recalls html view := by
  constructor
  case asked =>
    intro replies count
    obtain ⟨rendered, hrun, -, -⟩ := p.run_polls count none ⟨replies, []⟩
    exact congrArg (·.2.asked) hrun
  case length_eq =>
    intro replies count
    obtain ⟨rendered, hrun, hlength, -⟩ := p.run_polls count none ⟨replies, []⟩
    exact (congrArg (·.1.length) hrun).trans hlength
  case shows =>
    intro replies count n r hr
    obtain ⟨rendered, hrun, -, hshows⟩ := p.run_polls count none ⟨replies, []⟩
    have hr' : rendered[n]? = some r := (congrArg (·.1[n]?) hrun).symm.trans hr
    have hlast := hshows n r hr'
    rwa [Option.or_none] at hlast
  case shown_payload => exact fun fields failed => payload fields _
  case fresh => exact fun reply fields h => congrArg Prod.snd (p.poll_of_fields h p.initial)
  case blank => rfl
  case text => exact fun h last => text h (p.holding last)
  case region =>
    intro h
    obtain ⟨above, habove⟩ := region h
    refine ⟨above, fun last => ?_⟩
    obtain ⟨below, hbelow⟩ := habove (p.holding last)
    refine ⟨below, hbelow none, ?_⟩
    have hmessage : Page.escape fetchFailedMessage = fetchFailedMessage := by decide
    rw [← hmessage]
    exact hbelow (some fetchFailedMessage)

end Poller

theorem JobsReport.recalls (options : JobsOptions) (client : Client) :
    (JobsReport.poller options client).Recalls options.html (options.view client) := by
  refine Poller.recalls (fun fields message => ?_) (fun h report => ?_) fun h => ?_
  · show render options client (load options _) message = options.view client fields message
    rw [load_decoded]
    rfl
  · simp [poller, render, h]
  · obtain ⟨above, habove⟩ := Page.jobsDocument_eq
    refine ⟨above, fun report => ?_⟩
    obtain ⟨below, hbelow⟩ := habove report.pager.navigation report.pager.user report.view
    exact ⟨below, fun message => (if_pos h).trans (hbelow message)⟩

theorem NodesReport.recalls (html : Bool) (client : Client) :
    (NodesReport.poller html client).Recalls html (nodesView html) := by
  refine Poller.recalls (fun fields message => rfl) (fun h report => ?_) fun h => ?_
  · simp [poller, render, h]
  · obtain ⟨above, habove⟩ := Page.nodesDocument_eq
    refine ⟨above, fun report => ?_⟩
    obtain ⟨below, hbelow⟩ := habove report.table
    exact ⟨below, fun message => (if_pos h).trans (hbelow message)⟩

/-- **Reports recall the last payload alone.** After any replies a report shows what a new one shows
of the last payload that came, under the message of a failed fetch if its last poll failed; each
poll asks once, always for the same URL. -/
theorem polls_recall :
    (∀ (options : JobsOptions) (client : Client),
      (JobsReport.poller options client).pollFrom =
        JobsReport.pollFrom Script.serve options client ∧
      (JobsReport.poller options client).Recalls options.html (options.view client)) ∧
    ∀ (html : Bool) (client : Client),
      (NodesReport.poller html client).pollFrom = NodesReport.pollFrom Script.serve html client ∧
      (NodesReport.poller html client).Recalls html (nodesView html) :=
  ⟨fun options client => ⟨rfl, JobsReport.recalls options client⟩,
    fun html client => ⟨rfl, NodesReport.recalls html client⟩⟩

/-- A text report of the jobs, of whoever has the most nodes. -/
def activeJobs : JobsOptions := ⟨.active, none, none, false⟩

/-- A job of bob's. -/
def bobsFields : Json.Fields := [("1", .object [("spec", .object [("userName", .string "bob")])])]

/-- The server answers with bob's job, and then it cannot be reached. -/
def answeringOnce : List Reply :=
  [.answer 200 "\x7b\"1\": \x7b\"spec\": \x7b\"userName\": \"bob\"\x7d\x7d\x7d".toUTF8, .none]

/-- The failed poll shows bob's page again, under its message. -/
theorem polls_recall_answering_once : ∃ first second,
    ((polls (JobsReport.pollFrom Script.serve activeJobs default) 2 .initial).run
      ⟨answeringOnce, []⟩).1 = [first, second] ∧
    (activeJobs.pager bobsFields).user = some "bob" ∧
    first.output = activeJobs.view default bobsFields none ∧ first.error = none ∧
    second.output = Terminal.fetchErrorText fetchFailedMessage ++ first.output ∧
    second.error.isSome = true := by
  obtain ⟨hpoll, h⟩ := polls_recall.1 activeJobs default
  rw [← hpoll]
  have huser : (activeJobs.pager bobsFields).user = some "bob" := by
    unfold JobsOptions.pager
    rw [Collection.ofRecords_of_descending (by decide)]
    decide
  have hanswer : (answeringOnce.getD 0 .none).fields? = some bobsFields := fields?_of_text rfl
  have hlast (n : Nat) : lastFields? (answeringOnce.take (n + 1)) = some bobsFields := by
    have hrest : lastFields? (answeringOnce.tail.take n) = none := by
      cases n <;> simp [answeringOnce, lastFields?, Reply.fields?]
    rw [lastFields?_take_succ, hrest]
    exact hanswer
  obtain ⟨first, second, hrun⟩ := List.length_eq_two.mp (h.length_eq answeringOnce 2)
  have hfirst := h.shows answeringOnce 2 0 first (congrArg (·[0]?) hrun)
  have hsecond := h.shows answeringOnce 2 1 second (congrArg (·[1]?) hrun)
  rw [hlast] at hfirst hsecond
  have hshown : first.output =
      (JobsReport.poller activeJobs default).shown (some bobsFields) false := by
    rw [hfirst.output_eq, hanswer]
    rfl
  refine ⟨first, second, hrun, huser, ?_, ?_, ?_, hsecond.error_iff.mpr .missing⟩
  · exact hshown.trans (h.shown_payload bobsFields false)
  · rw [← Option.not_isSome_iff_eq_none, hfirst.error_iff, fails_iff, hanswer]
    simp
  · rw [hshown, ← h.text rfl (some bobsFields)]
    exact hsecond.output_eq

end ClusterBoard
