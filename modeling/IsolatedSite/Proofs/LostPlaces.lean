import IsolatedSite.Proofs.Gate
import IsolatedSite.Proofs.Replies

namespace IsolatedSite

namespace Site

variable {t : FileTree} {site : Site} {req : Request}

theorem needsTree_of_undated (h : Undated t site req) : site.needsTree req = true := by
  obtain ⟨hm, requested, place, n, hfile, -, -⟩ := h
  obtain ⟨candidate, hresolve, -⟩ := locate_eq_file hfile
  rw [needsTree, hresolve, Except.isOk, Except.toBool, Bool.and_true]
  rcases hm with hm | hm <;> rw [hm] <;> rfl

end Site

namespace Service

variable (service : Service) (clock : Clock) (peer : SocketAddress)

theorem answer_crashed_iff (keepAlive : Bool) (req : Request) (j : Journal) :
    (service.answer clock peer keepAlive req j).2 = .crashed ↔
      Site.Undated j.tree service.site req := by
  rw [← Site.answer_eq_crashed_iff, answer]
  cases hanswer : service.site.answer j.tree req with
  | crashed => simp
  | answered reply =>
      simp only [reduceCtorEq, iff_false]
      split <;> nofun

/-- The connection goes on or ends in some other way. -/
def Progress.Survives (p : Progress) : Prop := p.outcome ≠ .error .crashed

variable {service clock peer}

theorem survives_send {keepAlive : Bool} {req : Request} {j : Journal} {after : Option Connection}
    {goOn : Connection → Journal → Progress} (hgoOn : ∀ c j, (goOn c j).Survives) :
    (service.send clock peer keepAlive req j after goOn).Survives ↔
      ¬ Site.Undated j.tree service.site req := by
  rw [← service.answer_crashed_iff clock peer keepAlive, send]
  rcases service.answer clock peer keepAlive req j with ⟨j', answered⟩
  cases answered with
  | crashed => simp [Progress.Survives]
  | cut message fault => simp [Progress.Survives]
  | sent message =>
      simp only [reduceCtorEq, not_false_eq_true, iff_true]
      cases after with
      | none => nofun
      | some c => exact hgoOn c j'

/-- Requests that need the tree are put off, so that none of the others can bring the connection
down. -/
theorem survives_advance (fuel : Nat) (c : Connection) (j : Journal) :
    (service.advance clock peer fuel c j).Survives := by
  induction fuel generalizing c j with
  | zero => nofun
  | succ fuel ih =>
      rw [advance]
      split
      · split <;> nofun
      · split
        · next c' _ =>
          rw [rest]
          split
          · split <;> nofun
          · nofun
        · nofun
        · next head c' _ =>
          dsimp only
          split
          · nofun
          · split
            · exact ih _ _
            · next hneeds =>
              exact (survives_send ih).2 fun h => hneeds (Site.needsTree_of_undated h)

theorem survives_complete (c : Connection) (j : Journal) :
    (service.complete clock peer c j).Survives ↔
      ¬ ∃ due, c.due = some due ∧ Site.Undated j.tree service.site due.request := by
  rw [complete]
  cases hdue : c.due with
  | none => simpa using survives_advance _ _ _
  | some due => simp [survives_send (survives_advance _)]

end Service

namespace Server

def peers (s : Server) : List SocketAddress := s.links.map Prod.fst

/-- A server that has lost so many connections and counts each of them as if it were still served. -/
structure Accounted (lost : Nat) (s : Server) : Prop where
  limit : s.gate.limit = s.service.settings.performance.maxConnections
  settled : s.gate.arriving = none
  live : s.gate.live = s.peers.length
  count : s.gate.count = s.peers.length + lost
  distinct : s.peers.Nodup

theorem accounted_start (service : Service) (j : Journal) : Accounted 0 (start service j) :=
  ⟨rfl, rfl, rfl, rfl, List.nodup_nil⟩

theorem link?_isSome_iff {s : Server} {peer : SocketAddress} :
    (s.link? peer).isSome ↔ peer ∈ s.peers := by
  rw [link?, List.lookup_isSome_iff, peers, List.mem_map]
  exact exists_congr fun l => and_congr_right fun _ => beq_iff_eq.trans eq_comm

variable {lost : Nat} {s s' : Server} {peer : SocketAddress}

theorem Accounted.congr (h : Accounted lost s) (hgate : s'.gate = s.gate) (hservice : s'.service = s.service)
    (hpeers : s'.peers = s.peers) : Accounted lost s' := by
  obtain ⟨hlimit, hsettled, hlive, hcount, hdistinct⟩ := h
  exact ⟨by rw [hgate, hservice, hlimit], by rw [hgate, hsettled], by rw [hgate, hpeers, hlive],
    by rw [hgate, hpeers, hcount], by rwa [hpeers]⟩

@[simp] theorem peers_modify (s : Server) (peer : SocketAddress) (f : Link → Link) :
    (s.modify peer f).peers = s.peers := by
  rw [peers, peers, modify, List.map_map]
  congr 1
  funext l
  rw [Function.comp_apply]
  split <;> rfl

theorem Accounted.modify (h : Accounted lost s) (peer : SocketAddress) (f : Link → Link) :
    Accounted lost (s.modify peer f) :=
  h.congr rfl rfl (s.peers_modify peer f)

theorem Accounted.hear (h : Accounted lost s) (peer : SocketAddress) (f : Link → Link) :
    Accounted lost (s.hear peer f) := by
  rw [Server.hear]
  split
  · exact h.modify peer f
  · exact (h.modify peer f).congr rfl rfl rfl

theorem Accounted.notice (h : Accounted lost s) : Accounted lost s.notice := by
  have hmarked : ∀ (news : List SocketAddress) (s : Server), Accounted lost s →
      Accounted lost (news.foldl (fun s peer => s.modify peer markEnd) s) := by
    intro news
    induction news with
    | nil => exact fun _ h => h
    | cons peer news ih => exact fun s h => ih _ (h.modify peer markEnd)
  exact (hmarked s.news s h).congr rfl rfl rfl

theorem connect_cases (s : Server) (peer : SocketAddress) (h : s.gate.arriving = none) :
    (s.connect peer).1.service = s.service ∧
      ((s.connect peer).1.gate = s.gate ∧ (s.connect peer).1.peers = s.peers ∨
        (s.connect peer).1.gate = { s.gate with count := s.gate.count + 1, live := s.gate.live + 1 } ∧
          (s.connect peer).1.peers = s.peers ++ [peer]) := by
  obtain ⟨service, journal, ⟨limit, count, arriving, live⟩, links, news, queue⟩ := s
  cases h
  cases limit with
  | none => simp [connect, Gate.step, Gate.step?, Gate.isFull, accept, peers]
  | some limit =>
      by_cases hfull : (limit : Int) ≤ count
      · simp [connect, Gate.step, Gate.step?, Gate.isFull, hfull, reject, peers]
      · simp [connect, Gate.step, Gate.step?, Gate.isFull, hfull, accept, peers]

theorem Accounted.connect (h : Accounted lost s) (hnew : peer ∉ s.peers) :
    Accounted lost (s.connect peer).1 := by
  obtain ⟨hservice, ⟨hgate, hpeers⟩ | ⟨hgate, hpeers⟩⟩ := s.connect_cases peer h.settled
  · exact h.congr hgate hservice hpeers
  · obtain ⟨hlimit, hsettled, hlive, hcount, hdistinct⟩ := h
    have hlength : (s.connect peer).1.peers.length = s.peers.length + 1 := by
      rw [hpeers, List.length_append, List.length_singleton]
    refine ⟨?_, ?_, ?_, ?_, ?_⟩
    · rw [hgate, hservice, hlimit]
    · rw [hgate, hsettled]
    · rw [hgate, hlength, hlive]
    · rw [hgate, hlength]
      dsimp only
      omega
    · rw [hpeers, List.nodup_append]
      refine ⟨hdistinct, List.nodup_singleton peer, ?_⟩
      rintro a ha b hb rfl
      exact hnew (List.mem_singleton.1 hb ▸ ha)

theorem Accounted.close (h : Accounted lost s) (hpeer : peer ∈ s.peers) (e : Ending) :
    Accounted (lost + if e = .crashed then 1 else 0) (s.close peer e) := by
  obtain ⟨hlimit, hsettled, hlive, hcount, hdistinct⟩ := h
  have hpeers : (s.close peer e).peers = s.peers.erase peer := by
    rw [hdistinct.erase_eq_filter, peers, peers, List.filter_map]
    rfl
  have hlength := List.length_erase_of_mem hpeer
  have hpos := List.length_pos_of_mem hpeer
  have hne : s.gate.live ≠ 0 := by omega
  have hgate : (s.close peer e).gate = { s.gate with
      count := if e = .crashed then s.gate.count else s.gate.count - 1, live := s.gate.live - 1 } := by
    simp only [Server.close]
    split <;> simp [Gate.step, Gate.step?, hne]
  refine ⟨?_, ?_, ?_, ?_, ?_⟩
  · rw [hgate]
    exact hlimit
  · rw [hgate, hsettled]
  · rw [hgate, hpeers, hlength, hlive]
  · rw [hgate, hpeers, hlength]
    dsimp only
    split <;> omega
  · rw [hpeers]
    exact hdistinct.erase peer

theorem Accounted.progressed_of_survives (h : Accounted lost s) (hpeer : peer ∈ s.peers)
    {p : Service.Progress} (hp : p.Survives) : Accounted lost (s.progressed peer p).1 := by
  have hjournal : Accounted lost { s with journal := p.journal } := h.congr rfl rfl rfl
  rw [progressed]
  split
  · next c _ => exact hjournal.modify peer fun l => { l with connection := c }
  · next e he =>
    have hkept := hjournal.close hpeer e
    rwa [if_neg fun hcrash : e = .crashed => hp (hcrash ▸ he)] at hkept

theorem Accounted.progressed_of_not_survives (h : Accounted lost s) (hpeer : peer ∈ s.peers)
    {p : Service.Progress} (hp : ¬ p.Survives) : Accounted (lost + 1) (s.progressed peer p).1 := by
  have hjournal : Accounted lost { s with journal := p.journal } := h.congr rfl rfl rfl
  have hcrash : p.outcome = .error .crashed := Classical.not_not.1 hp
  rw [progressed, hcrash]
  exact hjournal.close hpeer .crashed

theorem Accounted.serve (h : Accounted lost s) (clock : Clock) (peer : SocketAddress) :
    Accounted lost (s.serve clock peer).1 := by
  rw [Server.serve]
  split
  · exact h
  · next l hl =>
    have hpeer : peer ∈ s.peers := link?_isSome_iff.1 (by rw [hl]; rfl)
    apply (h.modify peer _).progressed_of_survives
    · rwa [peers_modify]
    · exact Service.survives_advance _ _ _

theorem Accounted.each {f : Server → SocketAddress → Server × Delivery}
    (hf : ∀ s peer, Accounted lost s → Accounted lost (f s peer).1) (peers : List SocketAddress)
    (h : Accounted lost s) : Accounted lost (s.each f peers).1 := by
  induction peers generalizing s with
  | nil => exact h
  | cons peer peers ih => exact ih (hf s peer h)

theorem Accounted.turn (h : Accounted lost s) (clock : Clock) : Accounted lost (s.turn clock).1 :=
  Accounted.each (fun _ peer h => h.serve clock peer) s.queue (h.congr rfl rfl rfl)

/-- The request of a client is due, and is for a file whose date lies beyond the calendar. -/
def DueUndated (s : Server) (peer : SocketAddress) : Prop :=
  ∃ c due, s.connection? peer = some c ∧ c.due = some due ∧
    Site.Undated s.journal.tree s.service.site due.request

theorem Accounted.work (h : Accounted lost s) (clock : Clock) (peer : SocketAddress) :
    (¬ s.DueUndated peer → Accounted lost (s.work clock peer).1) ∧
      (s.DueUndated peer → Accounted (lost + 1) (s.work clock peer).1) := by
  rw [Server.work, DueUndated]
  cases hc : s.connection? peer with
  | none => simpa using h
  | some c =>
      have hpeer : peer ∈ s.peers := by
        rw [← link?_isSome_iff, ← Option.isSome_map (f := Link.connection)]
        exact Option.isSome_iff_exists.2 ⟨c, hc⟩
      have hiff : (∃ c' due, some c = some c' ∧ c'.due = some due ∧
          Site.Undated s.journal.tree s.service.site due.request) ↔
          ¬ (s.service.complete clock peer c s.journal).Survives := by
        rw [Service.survives_complete, Classical.not_not]
        simp
      rw [hiff]
      exact ⟨fun hp => h.progressed_of_survives hpeer (Classical.not_not.1 hp),
        h.progressed_of_not_survives hpeer⟩

inductive Event where
  | connect (peer : SocketAddress)
  | deliver (peer : SocketAddress) (octets : Bytes)
  | hangUp (peer : SocketAddress)
  | notice
  | turn (clock : Clock)
  | work (clock : Clock) (peer : SocketAddress)
  | late (peer : SocketAddress) (e : Ending)
  | acceptFailed (fault : Fault)
  /-- The files have changed, or the journal has been written out. -/
  | look (j : Journal)

namespace Event

def step (s : Server) : Event → Server
  | .connect peer => (s.connect peer).1
  | .deliver peer octets => s.deliver peer octets
  | .hangUp peer => s.hangUp peer
  | .notice => s.notice
  | .turn clock => (s.turn clock).1
  | .work clock peer => (s.work clock peer).1
  | .late peer e => s.close peer e
  | .acceptFailed fault => s.acceptFailed fault
  | .look j => { s with journal := j }

/-- No two connections come from one address at a time, and only those that are served can be late. -/
def Possible (s : Server) : Event → Prop
  | .connect peer => peer ∉ s.peers
  | .late peer e => peer ∈ s.peers ∧ (e = .headTimeout ∨ ∃ seconds, e = .timedOut seconds)
  | _ => True

def Loses (s : Server) : Event → Prop
  | .work _ peer => s.DueUndated peer
  | _ => False

end Event

theorem Accounted.step (h : Accounted lost s) {event : Event} (hpossible : event.Possible s) :
    (¬ event.Loses s → Accounted lost (event.step s)) ∧
      (event.Loses s → Accounted (lost + 1) (event.step s)) := by
  cases event with
  | connect peer => exact ⟨fun _ => h.connect hpossible, False.elim⟩
  | deliver peer octets =>
      refine ⟨fun _ => ?_, False.elim⟩
      rw [Event.step, deliver]
      split
      · exact h
      · exact h.hear peer _
  | hangUp peer => exact ⟨fun _ => h.hear peer _, False.elim⟩
  | notice => exact ⟨fun _ => h.notice, False.elim⟩
  | turn clock => exact ⟨fun _ => h.turn clock, False.elim⟩
  | work clock peer => exact h.work clock peer
  | late peer e =>
      obtain ⟨hpeer, hlate⟩ := hpossible
      have hclosed := h.close hpeer e
      rw [if_neg (by rcases hlate with rfl | ⟨_, rfl⟩ <;> nofun)] at hclosed
      exact ⟨fun _ => hclosed, False.elim⟩
  | acceptFailed fault => exact ⟨fun _ => h.congr rfl rfl rfl, False.elim⟩
  | look j => exact ⟨fun _ => h.congr rfl rfl rfl, False.elim⟩

/-- The servers that a server can become while the files are as some trees have them, with the number of
connections that are lost on the way. -/
inductive Runs (among : FileTree → Prop) (s₀ : Server) : Nat → Server → Prop
  | start : Runs among s₀ 0 s₀
  | keeps {lost : Nat} {s : Server} (h : Runs among s₀ lost s) (event : Event) (htree : among s.journal.tree)
      (hpossible : event.Possible s) (hkeeps : ¬ event.Loses s) : Runs among s₀ lost (event.step s)
  | loses {lost : Nat} {s : Server} (h : Runs among s₀ lost s) (event : Event) (htree : among s.journal.tree)
      (hpossible : event.Possible s) (hloses : event.Loses s) : Runs among s₀ (lost + 1) (event.step s)

variable {among : FileTree → Prop} {service : Service} {j : Journal}

theorem Accounted.of_runs {more : Nat} (h : Accounted lost s) (hruns : Runs among s more s') :
    Accounted (lost + more) s' := by
  induction hruns with
  | start => exact h
  | keeps _ _ _ hpossible hkeeps ih => exact (ih.step hpossible).1 hkeeps
  | loses _ _ _ hpossible hloses ih => exact (ih.step hpossible).2 hloses

theorem Accounted.count_links (h : Accounted lost s) : s.gate.count = s.links.length + lost := by
  rw [h.count, peers, List.length_map]

end Server

def FileTree.Dated (t : FileTree) : Prop :=
  ∀ id n, t.node? id = some n → HttpDate.ofMoment? n.modified ≠ none

theorem FileTree.Dated.not_undated {t : FileTree} (h : t.Dated) (site : Site) (req : Request) :
    ¬ Site.Undated t site req := by
  rintro ⟨-, requested, place, n, -, hn, hdate⟩
  exact h _ n hn hdate

namespace Server

variable {lost : Nat} {s : Server} {among : FileTree → Prop} {service : Service} {j : Journal}

theorem lost_eq_zero (h : Runs among (start service j) lost s) (hdated : ∀ t, among t → t.Dated) :
    lost = 0 := by
  induction h with
  | start => rfl
  | keeps _ _ _ _ _ ih => exact ih
  | loses _ event htree _ hloses _ =>
      cases event with
      | work clock peer =>
          obtain ⟨c, due, -, -, hundated⟩ := hloses
          exact absurd hundated ((hdated _ htree).not_undated _ _)
      | _ => exact False.elim hloses

/-- A request brings its connection down if and only if it is for a file whose date lies beyond the
calendar, and then the place of the connection is never given back. In every run, a client is turned
away if the connections that are served and those that were lost are as many as the limit allows. None
is lost while all dates can be written. -/
theorem places_lost_with_undated_files (h : Runs among (start service j) lost s) :
    s.gate.count = s.links.length + lost ∧
      (∀ peer, (s.connect peer).2.closed = true ↔
        ∃ limit, s.service.settings.performance.maxConnections = some limit ∧
          limit ≤ s.links.length + lost) ∧
      (∀ among' more s', Runs among' s more s' →
        s'.gate.count = s'.links.length + (lost + more : Nat)) ∧
      (∀ clock peer keepAlive req j', (s.service.answer clock peer keepAlive req j').2 = .crashed ↔
        Site.Undated j'.tree s.service.site req) ∧
      ((∀ t, among t → t.Dated) → lost = 0) := by
  have haccounted : Accounted lost s := Nat.zero_add lost ▸ (accounted_start service j).of_runs h
  refine ⟨haccounted.count_links, fun peer => ?_, ?_, ?_, lost_eq_zero h⟩
  · rw [(s.connect_gate peer haccounted.settled).2, Gate.isFull_iff, haccounted.count_links,
      haccounted.limit]
    simp only [← Int.natCast_add, Int.ofNat_le]
  · exact fun _ _ _ hmore => (haccounted.of_runs hmore).count_links
  · exact fun clock peer keepAlive req j' => s.service.answer_crashed_iff clock peer keepAlive req j'

def lateJournal : Journal where
  tree :=
    { nodes :=
        [⟨.directory [⟨⟨Utf8.octets "late", Eq.refl true⟩, 1⟩], .forDirectories, ⟨2, 0⟩⟩,
          ⟨.file (Utf8.octets "x"), .forFiles, ⟨9000000000000, 0⟩⟩]
      workingDirectory := .root
      sound := by decide }

def lateServer : Server :=
  start
    { site := ⟨Utf8.octets "/", .builtIn, "site"⟩
      settings :=
        { server := ⟨"127.0.0.1", 8000, "/", none⟩
          logging := ⟨"info", true, "common", none, none⟩
          performance := ⟨true, 128, some 1, none, none⟩
          http := ⟨"site", []⟩ } }
    lateJournal

def lateClient : SocketAddress := ⟨.v4 [127, 0, 0, 1], 50000⟩

def lateRequest : Bytes := Utf8.octets "GET /late HTTP/1.1\r\nHost: h\r\n\r\n"

def lateClock : Clock := ⟨⟨⟨0, 0⟩, 0⟩, 0⟩

def servingLate (link : Link) (news queue : List SocketAddress) : Server :=
  { lateServer with
    gate := ⟨some 1, 1, none, 1⟩
    links := [(lateClient, link)]
    news := news
    queue := queue }

def lateLink : Link where
  connection :=
    { intake := { slack := true }
      keepAlive := true
      due := some ⟨⟨.get, ⟨"/late", none⟩, .v11, Headers.empty.append "host" (Utf8.octets "h")⟩, true, true⟩ }

theorem dueUndated_lateLink : (servingLate lateLink [] []).DueUndated lateClient := by
  refine ⟨_, _, rfl, rfl, Or.inl rfl, Utf8.octets "/late",
    Spot.root.into ⟨Utf8.octets "late", Eq.refl true⟩ 1, _, ?_, rfl, ?_⟩
  · decide +kernel
  · decide +kernel

theorem runs_lateLink :
    Runs (· = lateJournal.tree) lateServer 0 (servingLate lateLink [] []) := by
  have hconnect : (Event.connect lateClient).step lateServer =
      servingLate ⟨{ keepAlive := true }, [], false⟩ [] [] := by
    decide +kernel
  have hdeliver : (Event.deliver lateClient lateRequest).step
      (servingLate ⟨{ keepAlive := true }, [], false⟩ [] []) =
      servingLate ⟨{ keepAlive := true }, lateRequest, false⟩ [lateClient] [] := by
    decide +kernel
  have hnotice : Event.notice.step (servingLate ⟨{ keepAlive := true }, lateRequest, false⟩ [lateClient] []) =
      servingLate ⟨{ keepAlive := true }, lateRequest, false⟩ [] [lateClient] := by
    decide +kernel
  have hturn : (Event.turn lateClock).step
      (servingLate ⟨{ keepAlive := true }, lateRequest, false⟩ [] [lateClient]) =
      servingLate lateLink [] [] := by
    decide +kernel
  have hconnected : Runs (· = lateJournal.tree) lateServer 0 ((Event.connect lateClient).step lateServer) :=
    Runs.start.keeps _ rfl List.not_mem_nil id
  rw [hconnect] at hconnected
  have hdelivered := hconnected.keeps (.deliver lateClient lateRequest) rfl trivial id
  rw [hdeliver] at hdelivered
  have hnoticed := hdelivered.keeps .notice rfl trivial id
  rw [hnotice] at hnoticed
  exact hturn ▸ hnoticed.keeps (.turn lateClock) rfl trivial id

theorem places_lost_with_undated_files_lateServer :
    ∃ s, Runs (· = lateJournal.tree) lateServer 1 s ∧ s.links = [] ∧ s.gate.count = 1 ∧
      ∀ among more s', Runs among s more s' → 1 ≤ s'.gate.count := by
  have hruns := runs_lateLink.loses (.work lateClock lateClient) rfl trivial dueUndated_lateLink
  obtain ⟨hcount, -, hstays, -, -⟩ := places_lost_with_undated_files hruns
  have hlinks : ((Event.work lateClock lateClient).step (servingLate lateLink [] [])).links = [] := by
    decide +kernel
  refine ⟨_, hruns, hlinks, ?_, fun among more s' hmore => ?_⟩
  · rw [hcount, hlinks]
    rfl
  · have := hstays among more s' hmore
    omega

/-- With the one connection gone that asked for a file without a date, nobody is let in any more. -/
theorem undated_file_uses_up_limit :
    ∃ s, Runs (· = lateJournal.tree) lateServer 1 s ∧ s.links = [] ∧
      ∀ peer, (s.connect peer).2.closed = true := by
  have hgate : ((Event.work lateClock lateClient).step (servingLate lateLink [] [])).gate =
      ⟨some 1, 1, none, 0⟩ := by
    decide +kernel
  refine ⟨_, runs_lateLink.loses (.work lateClock lateClient) rfl trivial dueUndated_lateLink,
    by decide +kernel, fun peer => ?_⟩
  rw [(connect_gate _ peer (by rw [hgate])).2, hgate]
  rfl

end Server

end IsolatedSite
