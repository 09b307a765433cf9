import IsolatedSite.Server

namespace IsolatedSite.Gate

/-- What a step does to a gate, where it is possible. -/
inductive Moves : Gate → Step → Gate → Prop
  | arrive {g} (h : g.arriving = none) :
      Moves g .arrive { g with count := g.count + 1, arriving := some g.count }
  | refuse {g found} (h : g.arriving = some found) (hfull : g.isFull found = true) :
      Moves g .refuse { g with count := g.count - 1, arriving := none }
  | accept {g found} (h : g.arriving = some found) (hfull : g.isFull found = false) :
      Moves g .accept { g with arriving := none, live := g.live + 1 }
  | leave {g} (h : 0 < g.live) :
      Moves g .leave { g with count := g.count - 1, live := g.live - 1 }
  | lose {g} (h : 0 < g.live) : Moves g .lose { g with live := g.live - 1 }

theorem moves_iff {g g' : Gate} {s : Step} : g.step? s = some g' ↔ Moves g s g' := by
  constructor
  · intro h
    cases s with
    | arrive =>
        simp only [step?] at h
        split at h
        · next hnone => cases h; exact .arrive hnone
        · cases h
    | refuse =>
        simp only [step?] at h
        split at h
        · next found hfound =>
            split at h
            · next hfull => cases h; exact .refuse hfound hfull
            · cases h
        · cases h
    | accept =>
        simp only [step?] at h
        split at h
        · next found hfound =>
            split at h
            · cases h
            · next hfull => cases h; exact .accept hfound (by simpa using hfull)
        · cases h
    | leave =>
        simp only [step?] at h
        split at h
        · cases h
        · next hlive => cases h; exact .leave (Nat.pos_of_ne_zero hlive)
    | lose =>
        simp only [step?] at h
        split at h
        · cases h
        · next hlive => cases h; exact .lose (Nat.pos_of_ne_zero hlive)
  · intro h
    cases h with
    | arrive h => simp [step?, h]
    | refuse h hfull => simp [step?, h, hfull]
    | accept h hfull => simp [step?, h, hfull]
    | leave h => simp [step?, Nat.ne_of_gt h]
    | lose h => simp [step?, Nat.ne_of_gt h]

def run? : Gate → List Step → Option Gate
  | g, [] => some g
  | g, s :: steps => (g.step? s).bind fun g' => g'.run? steps

theorem run?_append (g : Gate) (as bs : List Step) :
    g.run? (as ++ bs) = (g.run? as).bind fun g' => g'.run? bs := by
  induction as generalizing g with
  | nil => rfl
  | cons s as ih =>
      rw [List.cons_append, run?, run?]
      cases g.step? s with
      | none => rfl
      | some g' => exact ih g'

theorem run?_cons_eq_some {g g' : Gate} {s : Step} {steps : List Step}
    (h : g.run? (s :: steps) = some g') : ∃ next, Moves g s next ∧ next.run? steps = some g' := by
  rw [run?] at h
  obtain ⟨next, hstep, hrest⟩ := Option.bind_eq_some_iff.1 h
  exact ⟨next, moves_iff.1 hstep, hrest⟩

theorem run?_append_eq_some {g g' : Gate} {as bs : List Step} (h : g.run? (as ++ bs) = some g') :
    ∃ mid, g.run? as = some mid ∧ mid.run? bs = some g' := by
  rw [run?_append] at h
  exact Option.bind_eq_some_iff.1 h

theorem limit_of_moves {g g' : Gate} {s : Step} (h : Moves g s g') : g'.limit = g.limit := by
  cases h <;> rfl

theorem limit_of_run {g g' : Gate} {steps : List Step} (h : g.run? steps = some g') :
    g'.limit = g.limit := by
  induction steps generalizing g with
  | nil => cases h; rfl
  | cons s steps ih =>
      obtain ⟨next, hmove, hrest⟩ := run?_cons_eq_some h
      rw [ih hrest, limit_of_moves hmove]

/-- A gate that counts right. A connection that is arriving has found the count of those that were
served when it came, some of which may have left since. -/
structure Balanced (g : Gate) : Prop where
  count : g.count = g.live + if g.arriving.isSome then 1 else 0
  found : ∀ found, g.arriving = some found → (g.live : Int) ≤ found
  cap : ∀ limit, g.limit = some limit → g.live ≤ limit

theorem balanced_start (limit : Option Nat) : (start limit).Balanced :=
  ⟨rfl, fun _ h => (nomatch h), fun _ _ => Nat.zero_le _⟩

theorem isFull_iff {g : Gate} {found : Int} :
    g.isFull found = true ↔ ∃ limit, g.limit = some limit ∧ (limit : Int) ≤ found := by
  unfold isFull
  cases g.limit with
  | none => simp
  | some limit => simp

theorem Balanced.of_moves {g g' : Gate} {s : Step} (h : Moves g s g') (hs : s ≠ .lose)
    (hg : g.Balanced) : g'.Balanced := by
  have hcount := hg.count
  cases h with
  | arrive h =>
      rw [h] at hcount
      refine ⟨?_, ?_, hg.cap⟩
      · simpa using hcount
      · intro found hfound
        cases hfound
        simpa using Int.le_of_eq hcount.symm
  | refuse h hfull =>
      rw [h] at hcount
      refine ⟨?_, fun _ h => (nomatch h), hg.cap⟩
      simp at hcount ⊢
      omega
  | @accept found h hfull =>
      rw [h] at hcount
      refine ⟨by simpa using hcount, fun _ h => (nomatch h), ?_⟩
      intro limit hlimit
      -- The connection found room, and no more are served now than when it came.
      have hroom : ¬ (limit : Int) ≤ found := by
        intro hle
        have hyes : g.isFull found = true := isFull_iff.2 ⟨limit, hlimit, hle⟩
        rw [hyes] at hfull
        cases hfull
      have hlive := hg.found found h
      change g.live + 1 ≤ limit
      omega
  | leave h =>
      refine ⟨?_, ?_, ?_⟩
      · change g.count - 1 = ((g.live - 1 : Nat) : Int) + if g.arriving.isSome then 1 else 0
        omega
      · intro found hfound
        have hlive := hg.found found hfound
        change ((g.live - 1 : Nat) : Int) ≤ found
        omega
      · intro limit hlimit
        exact Nat.le_trans (Nat.sub_le _ _) (hg.cap limit hlimit)
  | lose => exact absurd rfl hs

theorem Balanced.of_run {g g' : Gate} {steps : List Step} (hs : .lose ∉ steps)
    (h : g.run? steps = some g') (hg : g.Balanced) : g'.Balanced := by
  induction steps generalizing g with
  | nil => cases h; exact hg
  | cons s steps ih =>
      obtain ⟨next, hmove, hrest⟩ := run?_cons_eq_some h
      rw [List.mem_cons, not_or] at hs
      exact ih hs.2 hrest (hg.of_moves hmove (Ne.symm hs.1))

theorem arriving_of_run {g g' : Gate} {steps : List Step} {found : Int}
    (hrefuse : .refuse ∉ steps) (haccept : .accept ∉ steps) (h : g.run? steps = some g')
    (hg : g.arriving = some found) : g'.arriving = some found := by
  induction steps generalizing g with
  | nil => cases h; exact hg
  | cons s steps ih =>
      obtain ⟨next, hmove, hrest⟩ := run?_cons_eq_some h
      rw [List.mem_cons, not_or] at hrefuse haccept
      refine ih hrefuse.2 haccept.2 hrest ?_
      cases hmove with
      | arrive hnone => rw [hg] at hnone; cases hnone
      | refuse => exact absurd rfl hrefuse.1
      | accept => exact absurd rfl haccept.1
      | leave | lose => exact hg

/-- The outcome of an arrival is decided by how many connections were served when it came. -/
theorem Balanced.outcome {g g' : Gate} {between after : List Step} {outcome : Step}
    (hg : g.Balanced) (hrefuse : .refuse ∉ between) (haccept : .accept ∉ between)
    (houtcome : outcome = .refuse ∨ outcome = .accept)
    (h : g.run? (.arrive :: between ++ outcome :: after) = some g') :
    outcome = .refuse ↔ ∃ limit, g.limit = some limit ∧ limit ≤ g.live := by
  obtain ⟨came, hcame, h⟩ := run?_cons_eq_some h
  obtain ⟨mid, hmid, h⟩ := run?_append_eq_some h
  obtain ⟨_, hdone, -⟩ := run?_cons_eq_some h
  cases hcame with
  | arrive hnone =>
      have harriving := arriving_of_run hrefuse haccept hmid rfl
      have hlimit : mid.limit = g.limit := by rw [limit_of_run hmid]
      have hcount : g.count = g.live := by
        have := hg.count
        rw [hnone] at this
        simpa using this
      have hfull : mid.isFull g.count = true ↔ ∃ limit, g.limit = some limit ∧ limit ≤ g.live := by
        rw [isFull_iff, hlimit, hcount]
        simp
      rw [← hfull]
      rcases houtcome with rfl | rfl
      · cases hdone with
        | refuse h hyes =>
            rw [harriving] at h
            cases h
            exact ⟨fun _ => hyes, fun _ => rfl⟩
      · cases hdone with
        | accept h hno =>
            rw [harriving] at h
            cases h
            exact ⟨fun h => (nomatch h), fun hyes => (nomatch hno.symm.trans hyes)⟩

/-- What holds of a gate after a run of steps: of its count and of those that are served, of the
outcome of every arrival on the way, and of the steps that may come next. -/
structure Accounts (limit : Option Nat) (steps : List Step) (g : Gate) : Prop where
  count : g.count = g.live + if g.arriving.isSome then 1 else 0
  nonneg : 0 ≤ g.count
  cap : ∀ most, limit = some most → g.live ≤ most
  idle : g.live = 0 → g.arriving = none → g.count = 0
  outcome : ∀ before between outcome after found,
    steps = before ++ .arrive :: between ++ outcome :: after →
    .refuse ∉ between → .accept ∉ between → outcome = .refuse ∨ outcome = .accept →
    (start limit).run? before = some found →
    (outcome = .refuse ↔ ∃ most, limit = some most ∧ most ≤ found.live)
  mayArrive : (g.step? .arrive).isSome ↔ g.arriving = none
  mayLeave : (g.step? .leave).isSome ↔ 0 < g.live
  mustSettle : g.arriving.isSome → ((g.step? .refuse).isSome ↔ (g.step? .accept).isNone)

theorem accounts_of_run {limit : Option Nat} {steps : List Step} {g : Gate} (hs : .lose ∉ steps)
    (h : (start limit).run? steps = some g) : Accounts limit steps g := by
  have hg := (balanced_start limit).of_run hs h
  have hcount := hg.count
  have hlimit : g.limit = limit := limit_of_run h
  refine ⟨hcount, ?_, ?_, ?_, ?_, ?_, ?_, ?_⟩
  · split at hcount <;> omega
  · rw [← hlimit]
    exact hg.cap
  · intro hlive harriving
    rw [hlive, harriving] at hcount
    simpa using hcount
  · intro before between outcome after found hsteps hrefuse haccept houtcome hbefore
    rw [hsteps, List.append_assoc] at h hs
    obtain ⟨found', hfound, hrest⟩ := run?_append_eq_some h
    rw [hbefore] at hfound
    cases hfound
    have hbalanced := (balanced_start limit).of_run (fun hmem => hs (List.mem_append_left _ hmem)) hbefore
    rw [hbalanced.outcome hrefuse haccept houtcome hrest, limit_of_run hbefore]
    rfl
  · simp [step?]
  · simp [step?, Nat.pos_iff_ne_zero]
  · intro harriving
    obtain ⟨found, hfound⟩ := Option.isSome_iff_exists.1 harriving
    simp [step?, hfound]

end IsolatedSite.Gate

namespace IsolatedSite.Server

open Gate

theorem connect_gate (s : Server) (peer : SocketAddress) (h : s.gate.arriving = none) :
    s.gate.run? [.arrive, if s.gate.isFull s.gate.count then .refuse else .accept] =
        some (s.connect peer).1.gate ∧
      (s.connect peer).2.closed = s.gate.isFull s.gate.count := by
  have harrive : s.gate.step? .arrive =
      some { s.gate with count := s.gate.count + 1, arriving := some s.gate.count } := by
    simp [step?, h]
  unfold connect
  simp only [run?, step, harrive, Option.getD_some, Option.bind_some]
  cases hlimit : s.gate.limit with
  | none => simp [isFull, hlimit, accept, step, step?]
  | some limit =>
      by_cases hfull : (limit : Int) ≤ s.gate.count
      · simp [isFull, hlimit, hfull, reject, step, step?]
      · simp [isFull, hlimit, hfull, accept, step, step?]

theorem close_gate (s : Server) (peer : SocketAddress) {e : Ending} (he : e ≠ .crashed)
    (h : 0 < s.gate.live) : s.gate.run? [.leave] = some (s.close peer e).gate := by
  simp [close, he, run?, step, step?, Nat.ne_of_gt h]

/-- In every state of every run in which no connection is lost, the gate counts right. A server takes
its gate from such a state to another one by the same steps, and turns a client away if as many are
served as the limit allows. -/
theorem gate_counts_connections {limit : Option Nat} {steps : List Step} {g : Gate}
    (hs : .lose ∉ steps) (h : (Gate.start limit).run? steps = some g) :
    Accounts limit steps g ∧
      ∀ (s : Server) (peer : SocketAddress), s.gate = g →
        (g.arriving = none →
          (∃ outcome, g.run? [.arrive, outcome] = some (s.connect peer).1.gate) ∧
          ((s.connect peer).2.closed = true ↔ ∃ most, limit = some most ∧ most ≤ g.live)) ∧
        ∀ e : Ending, e ≠ .crashed → 0 < g.live → g.run? [.leave] = some (s.close peer e).gate := by
  have haccounts := accounts_of_run hs h
  refine ⟨haccounts, ?_⟩
  rintro s peer rfl
  refine ⟨fun hnone => ?_, fun e he hlive => s.close_gate peer he hlive⟩
  obtain ⟨hrun, hclosed⟩ := s.connect_gate peer hnone
  refine ⟨⟨_, hrun⟩, ?_⟩
  have hcount : s.gate.count = s.gate.live := by
    have hcount := haccounts.count
    rw [hnone] at hcount
    simpa using hcount
  have hlimit : s.gate.limit = limit := limit_of_run h
  rw [hclosed, isFull_iff, hlimit, hcount]
  simp

theorem gate_counts_crossing_connections :
    (Gate.start (some 1)).run? [.arrive, .accept, .arrive, .leave, .refuse] =
        some ⟨some 1, 0, none, 0⟩ ∧
      Accounts (some 1) [.arrive, .accept, .arrive, .leave, .refuse] ⟨some 1, 0, none, 0⟩ :=
  ⟨rfl, (gate_counts_connections (by decide) rfl).1⟩

end IsolatedSite.Server
