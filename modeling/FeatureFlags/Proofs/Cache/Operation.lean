import FeatureFlags.Proofs.Cache.Deployment

namespace FeatureFlags

/-- What is done at a desk, by its loop or by those who ask it. -/
inductive DeskOperation where
  | request (n : Nat)
  | collect (n : Nat)
  | leave (n : Nat)
  | stop
  | drop
  | tick
  | take
  | resume (fetched : Fetched)

/-- What is done to a cache and its loops, with what fetches come to. -/
inductive Operation (Task Loop : Type) where
  | refresh (t : Task)
  | proceed (t : Task) (fetched : Fetched)
  | abandon (t : Task)
  | start (l : Loop)
  | desk (l : Loop) (op : DeskOperation)
  | poll
  | ask (q : Query)
  | hand (now : Option Timestamp)
  | evaluate (held : Snapshot) (context : Context)

namespace Desk

variable [PatternEngine]

/-- What comes of an operation, if it is possible now. -/
def perform (k : Desk) : DeskOperation → Option (Call × Desk)
  | .request n =>
    match k.requests n, k.loop.closed, k.loop.send (.refresh n) with
    | none, false, .ok loop =>
      if k.loop.inbox.length < RefreshLoop.capacity then
        some (.sent n, (k.setServing ⟨k.cache, loop⟩).setRequest n .waiting)
      else none
    | none, false, .error e => some (.refused n, k.setRequest n (.returned (.error e)))
    | _, _, _ => none
  | .collect n =>
    match k.requests n, k.loop.reply? n with
    | some .waiting, some result => some (.received n result, k.setRequest n (.returned result))
    | some .waiting, none =>
      if k.loop.ended then some (.lost n, k.setRequest n (.returned (.error .shutDown))) else none
    | _, _ => none
  | .leave n =>
    match k.requests n with
    | some .waiting => some (.left n, k.setRequest n .left)
    | _ => none
  | .stop =>
    match k.loop.closed, k.loop.send .shutdown with
    | false, .ok loop =>
      if k.loop.inbox.length < RefreshLoop.capacity then
        some (.stopSent, k.setServing ⟨k.cache, loop⟩)
      else none
    | _, _ => none
  | .drop => some (.dropped, k.setServing ⟨k.cache, k.loop.close⟩)
  | .tick =>
    if k.loop.isIdle then some (k.cache.beginning .tick, k.setServing k.toServing.tick) else none
  | .take =>
    match k.loop.isIdle, k.loop.inbox, k.loop.closed with
    | true, .refresh n :: _, _ =>
      some (k.cache.beginning (.request n), k.setServing k.toServing.take)
    | true, .shutdown :: _, _ | true, [], true => some (.ended, k.setServing k.toServing.take)
    | _, _, _ => none
  | .resume fetched =>
    k.loop.current.map fun (job, r) =>
      (r.call job fetched, k.setServing (k.toServing.resume fetched))

theorem exists_perform_of_step {k k' : Desk} {y : Call} (hstep : Step k y k') :
    ∃ op, k.perform op = some (y, k') := by
  cases hstep with
  | @send n _ hnew hopen hroom hsend =>
      exact ⟨.request n, by simp [perform, hnew, hopen, hroom, hsend]⟩
  | @refuse n _ hnew hopen hsend => exact ⟨.request n, by simp [perform, hnew, hopen, hsend]⟩
  | @receive n _ hwaits hreply => exact ⟨.collect n, by simp [perform, hwaits, hreply]⟩
  | @lose n hwaits hended hreply => exact ⟨.collect n, by simp [perform, hwaits, hended, hreply]⟩
  | @leave n hwaits => exact ⟨.leave n, by simp [perform, hwaits]⟩
  | stop hopen hroom hsend => exact ⟨.stop, by simp [perform, hopen, hroom, hsend]⟩
  | drop => exact ⟨.drop, rfl⟩
  | tick hidle => exact ⟨.tick, by simp [perform, hidle]⟩
  | take hidle hinbox => exact ⟨.take, by simp [perform, hidle, hinbox]⟩
  | resume fetched hcurrent => exact ⟨.resume fetched, by simp [perform, hcurrent]⟩
  | finish hidle hfinished =>
      refine ⟨.take, ?_⟩
      rcases hfinished with hstop | ⟨hempty, hclosed⟩
      · obtain ⟨rest, hinbox⟩ := List.head?_eq_some_iff.mp hstop
        simp [perform, hidle, hinbox]
      · simp [perform, hidle, hempty, hclosed]

theorem step_of_perform {k k' : Desk} {y : Call} {op : DeskOperation}
    (h : k.perform op = some (y, k')) : Step k y k' := by
  cases op with
  | request n =>
      rw [perform] at h
      split at h
      · next loop hnew hopen hsend =>
          split at h <;> cases h
          next hroom => exact .send hnew hopen hroom hsend
      · next e hnew hopen hsend =>
          cases h
          exact .refuse hnew hopen hsend
      · cases h
  | collect n =>
      rw [perform] at h
      split at h
      · next result hwaits hreply =>
          cases h
          exact .receive hwaits hreply
      · next hwaits hreply =>
          split at h <;> cases h
          next hended => exact .lose hwaits hended hreply
      · cases h
  | leave n =>
      rw [perform] at h
      split at h <;> cases h
      next hwaits => exact .leave hwaits
  | stop =>
      rw [perform] at h
      split at h
      · next loop hopen hsend =>
          split at h <;> cases h
          next hroom => exact .stop hopen hroom hsend
      · cases h
  | drop =>
      cases h
      exact .drop
  | tick =>
      rw [perform] at h
      split at h <;> cases h
      next hidle => exact .tick hidle
  | take =>
      rw [perform] at h
      split at h <;> cases h
      · next n rest hidle hinbox => exact .take hidle hinbox
      · next rest hidle hinbox => exact .finish hidle (.inl (by rw [hinbox]; rfl))
      · next hidle hempty hclosed => exact .finish hidle (.inr ⟨hempty, hclosed⟩)
  | resume fetched =>
      obtain ⟨⟨job, r⟩, hcurrent, hcall⟩ := Option.map_eq_some_iff.mp h
      cases hcall
      exact .resume fetched hcurrent

end Desk

namespace Deployment

variable [PatternEngine] {Task Loop : Type} [DecidableEq Task] [DecidableEq Loop]

/-- What comes of an operation, if it is possible now. -/
def perform (d : Deployment Task Loop) :
    Operation Task Loop → Option (Notice Task Loop × Deployment Task Loop)
  | .refresh t =>
    match d.refreshes t, d.cache.acquire with
    | some _, _ => none
    | none, none => some (.caller t (.rejected ()), d)
    | none, some c => some (.caller t (.began ()), d.setRefresh t c (some .fetching))
  | .proceed t fetched =>
    (d.refreshes t).map fun r =>
      (.caller t (r.event () fetched), d.setRefresh t (r.step d.cache fetched).1
        (r.step d.cache fetched).2.getLeft?)
  | .abandon t =>
    match d.refreshes t with
    | some .fetching => some (.caller t (.abandoned ()), d.setRefresh t d.cache.abandon none)
    | _ => none
  | .start l =>
    match d.loops l with
    | none => some (.opened l, d.setDesk l (.opened d.cache))
    | some _ => none
  | .desk l op =>
    (d.desk? l).bind fun k => (k.perform op).map fun (y, k') => (.desk l y, d.setDesk l k')
  | .poll => some (.polled d.cache.ready, d)
  | .ask q => some (.asked q d.cache.snapshot (d.cache.ask q).2, d.setCache (d.cache.ask q).1)
  | .hand now => some (.exported d.cache.snapshot (d.cache.exported now), d)
  | .evaluate held context =>
    some (.evaluated held context (d.cache.evaluateOn held context).2,
      d.setCache (d.cache.evaluateOn held context).1)

/-- What comes of operations one after the other, if each is possible in its turn. -/
def performAll (d : Deployment Task Loop) :
    List (Operation Task Loop) → Option (List (Notice Task Loop) × Deployment Task Loop)
  | [] => some ([], d)
  | op :: ops =>
    (d.perform op).bind fun (x, m) => (m.performAll ops).map fun (history, d') => (x :: history, d')

variable {d d' : Deployment Task Loop} {x : Notice Task Loop} {history : List (Notice Task Loop)}

theorem exists_perform_of_step (hstep : Step d x d') : ∃ op, d.perform op = some (x, d') := by
  cases hstep with
  | @reject t hfree htaken => exact ⟨.refresh t, by simp [perform, hfree, htaken]⟩
  | @begin t c hfree hacquire => exact ⟨.refresh t, by simp [perform, hfree, hacquire]⟩
  | @proceed t r c next fetched hrefresh hstep =>
      exact ⟨.proceed t fetched, by simp [perform, hrefresh, hstep]⟩
  | @abandon t hrefresh => exact ⟨.abandon t, by simp [perform, hrefresh]⟩
  | @start l hnew => exact ⟨.start l, by simp [perform, hnew]⟩
  | @desk l k y k' hdesk hstep =>
      obtain ⟨op, hop⟩ := Desk.exists_perform_of_step hstep
      exact ⟨.desk l op, by simp [perform, hdesk, hop]⟩
  | poll => exact ⟨.poll, rfl⟩
  | ask q => exact ⟨.ask q, rfl⟩
  | hand now => exact ⟨.hand now, rfl⟩
  | evaluate held context => exact ⟨.evaluate held context, rfl⟩

theorem step_of_perform {op : Operation Task Loop} (h : d.perform op = some (x, d')) :
    Step d x d' := by
  cases op with
  | refresh t =>
      rw [perform] at h
      split at h <;> cases h
      · next hfree htaken => exact .reject hfree htaken
      · next c hfree hacquire => exact .begin hfree hacquire
  | proceed t fetched =>
      obtain ⟨r, hrefresh, hnext⟩ := Option.map_eq_some_iff.mp h
      cases hnext
      exact .proceed fetched hrefresh rfl
  | abandon t =>
      rw [perform] at h
      split at h <;> cases h
      next hrefresh => exact .abandon hrefresh
  | start l =>
      rw [perform] at h
      split at h <;> cases h
      next hnew => exact .start hnew
  | desk l op =>
      obtain ⟨k, hdesk, hcall⟩ := Option.bind_eq_some_iff.mp h
      obtain ⟨⟨y, k'⟩, hperform, hnext⟩ := Option.map_eq_some_iff.mp hcall
      cases hnext
      exact .desk hdesk (Desk.step_of_perform hperform)
  | poll =>
      cases h
      exact .poll
  | ask q =>
      cases h
      exact .ask q
  | hand now =>
      cases h
      exact .hand now
  | evaluate held context =>
      cases h
      exact .evaluate held context

theorem performAll_cons_iff {op : Operation Task Loop} {ops : List (Operation Task Loop)} :
    d.performAll (op :: ops) = some (history, d') ↔ ∃ x m rest,
      d.perform op = some (x, m) ∧ m.performAll ops = some (rest, d') ∧ history = x :: rest := by
  rw [performAll, Option.bind_eq_some_iff]
  constructor
  · rintro ⟨⟨x, m⟩, hop, hmap⟩
    obtain ⟨⟨rest, d''⟩, hops, hnext⟩ := Option.map_eq_some_iff.mp hmap
    cases hnext
    exact ⟨x, m, rest, hop, hops, rfl⟩
  · rintro ⟨x, m, rest, hop, hops, rfl⟩
    exact ⟨(x, m), hop, by simp only [hops, Option.map_some]⟩

theorem performAll_snoc {m : Deployment Task Loop} {ops : List (Operation Task Loop)}
    {op : Operation Task Loop} (hops : d.performAll ops = some (history, m))
    (hop : m.perform op = some (x, d')) :
    d.performAll (ops ++ [op]) = some (history ++ [x], d') := by
  induction ops generalizing d history with
  | nil =>
      cases hops
      exact performAll_cons_iff.mpr ⟨x, d', [], hop, rfl, rfl⟩
  | cons first rest ih =>
      obtain ⟨y, n, earlier, hfirst, hrest, rfl⟩ := performAll_cons_iff.mp hops
      exact performAll_cons_iff.mpr ⟨y, n, earlier ++ [x], hfirst, ih hrest, rfl⟩

/-- The runs of a cache in use are what comes of operations one after the other. -/
theorem run_iff : Run d history d' ↔ ∃ ops, d.performAll ops = some (history, d') := by
  constructor
  · intro hrun
    induction hrun with
    | nil => exact ⟨[], rfl⟩
    | snoc hrun hstep ih =>
        obtain ⟨ops, hops⟩ := ih
        obtain ⟨op, hop⟩ := exists_perform_of_step hstep
        exact ⟨ops ++ [op], performAll_snoc hops hop⟩
  · rintro ⟨ops, hops⟩
    induction ops generalizing d history with
    | nil =>
        cases hops
        exact .nil
    | cons op ops ih =>
        obtain ⟨x, m, rest, hop, hrest, rfl⟩ := performAll_cons_iff.mp hops
        have hfirst : Run d ([] ++ [x]) m := .snoc .nil (step_of_perform hop)
        exact hfirst.append (ih hrest)

end Deployment

end FeatureFlags
