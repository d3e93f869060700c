import Mathlib
import FeatureFlags.Database.Stitching

namespace FeatureFlags.Database

inductive Query where
  | flags
  | segments
  | constraints
  | distributions
  | variants
  | tags
deriving DecidableEq

namespace Query

def place : Query → Nat
  | flags => 0
  | segments => 1
  | constraints => 2
  | distributions => 3
  | variants => 4
  | tags => 5

/-- A query reads the same in two states. -/
def Agrees : Query → Database → Database → Prop
  | flags, d, d' => d.readFlags = d'.readFlags
  | segments, d, d' => d.readSegments = d'.readSegments
  | constraints, d, d' => d.readConstraints = d'.readConstraints
  | distributions, d, d' => d.readDistributions = d'.readDistributions
  | variants, d, d' => d.readVariants = d'.readVariants
  | tags, d, d' => d.readTags = d'.readTags

variable {q : Query} {d d' d'' : Database}

theorem Agrees.refl (q : Query) (d : Database) : q.Agrees d d := by
  cases q <;> rfl

theorem Agrees.symm (h : q.Agrees d d') : q.Agrees d' d := by
  cases q <;> exact Eq.symm h

theorem Agrees.trans (h : q.Agrees d d') (h' : q.Agrees d' d'') : q.Agrees d d'' := by
  cases q <;> exact Eq.trans h h'

end Query

/-- What happens while a fetch runs: a writer commits a transaction, or the fetch sends
its next query. -/
inductive Event where
  | commit (change : Database → Database)
  | read

/-- The committed state, and the states that the queries saw so far. -/
structure Session where
  current : Database
  seen : List Database

namespace Session

def start (db : Database) : Session :=
  ⟨db, []⟩

def step (s : Session) : Event → Session
  | .commit change => { s with current := change s.current }
  | .read => { s with seen := s.seen ++ [s.current] }

def run (s : Session) (events : List Event) : Session :=
  events.foldl step s

def outcome (s : Session) : Option (Except FetchError (List Flag)) :=
  match s.seen with
  | [first, second, third, fourth, fifth, sixth] =>
      some (fetchThrough first second third fourth fifth sixth)
  | _ => none

end Session

def changes : List Event → List (Database → Database)
  | [] => []
  | .commit change :: events => change :: changes events
  | .read :: events => changes events

def reads : List Event → Nat
  | [] => 0
  | .commit _ :: events => reads events
  | .read :: events => reads events + 1

def commitsBefore : List Event → Nat → Nat
  | [], _ => 0
  | .commit _ :: events, place => commitsBefore events place + 1
  | .read :: _, 0 => 0
  | .read :: events, place + 1 => commitsBefore events place

def stateAfter (db : Database) (changes : List (Database → Database)) (n : Nat) : Database :=
  (changes.take n).foldl (fun d change => change d) db

def seenBy (db : Database) (events : List Event) (q : Query) : Database :=
  stateAfter db (changes events) (commitsBefore events q.place)

def fetchSeeing (seen : Query → Database) : Except FetchError (List Flag) :=
  fetchThrough (seen .flags) (seen .segments) (seen .constraints) (seen .distributions)
    (seen .variants) (seen .tags)

/-- From one state to a later one, no transaction changes what a query reads. -/
def Unchanged (db : Database) (changes : List (Database → Database)) (q : Query)
    (m n : Nat) : Prop :=
  ∀ k, m ≤ k → k < n → q.Agrees (stateAfter db changes k) (stateAfter db changes (k + 1))

@[simp]
theorem stateAfter_zero (db : Database) (changes : List (Database → Database)) :
    stateAfter db changes 0 = db := rfl

@[simp]
theorem stateAfter_cons_succ (db : Database) (change : Database → Database)
    (changes : List (Database → Database)) (n : Nat) :
    stateAfter db (change :: changes) (n + 1) = stateAfter (change db) changes n := rfl

theorem commitsBefore_mono (events : List Event) {place place' : Nat} (hle : place ≤ place') :
    commitsBefore events place ≤ commitsBefore events place' := by
  induction events generalizing place place' with
  | nil => exact Nat.le_refl 0
  | cons event events ih =>
      cases event with
      | commit change => exact Nat.succ_le_succ (ih hle)
      | read =>
          cases place with
          | zero => exact Nat.zero_le _
          | succ place =>
              cases place' with
              | zero => exact absurd hle (Nat.not_succ_le_zero place)
              | succ place' => exact ih (Nat.le_of_succ_le_succ hle)

theorem seen_run (s : Session) (events : List Event) :
    (s.run events).seen = s.seen ++ (List.range (reads events)).map fun place =>
      stateAfter s.current (changes events) (commitsBefore events place) := by
  induction events generalizing s with
  | nil => simp [Session.run, reads]
  | cons event events ih =>
      cases event with
      | commit change =>
          calc
            (s.run (.commit change :: events)).seen =
                ((s.step (.commit change)).run events).seen := rfl
            _ = _ := ih (s.step (.commit change))
      | read =>
          calc
            (s.run (.read :: events)).seen = ((s.step .read).run events).seen := rfl
            _ = (s.seen ++ [s.current]) ++ (List.range (reads events)).map fun place =>
                  stateAfter s.current (changes events) (commitsBefore events place) :=
              ih (s.step .read)
            _ = _ := by
              rw [reads, List.range_succ_eq_map, List.map_cons, List.map_map,
                List.append_assoc]
              rfl

theorem Session.seen_of_outcome {s : Session} {result : Except FetchError (List Flag)}
    (h : s.outcome = some result) :
    ∃ first second third fourth fifth sixth,
      s.seen = [first, second, third, fourth, fifth, sixth] ∧
        fetchThrough first second third fourth fifth sixth = result := by
  unfold Session.outcome at h
  split at h
  case h_1 hseen => exact ⟨_, _, _, _, _, _, hseen, Option.some.inj h⟩
  case h_2 => cases h

theorem fetchSeeing_of_outcome {db : Database} {events : List Event}
    {result : Except FetchError (List Flag)}
    (houtcome : ((Session.start db).run events).outcome = some result) :
    fetchSeeing (seenBy db events) = result := by
  obtain ⟨first, second, third, fourth, fifth, sixth, hseen, hresult⟩ :=
    Session.seen_of_outcome houtcome
  rw [seen_run, Session.start, List.nil_append] at hseen
  have hreads : reads events = 6 := by simpa using congrArg List.length hseen
  rw [hreads] at hseen
  cases hseen
  exact hresult

theorem fetchSeeing_congr {seen seen' : Query → Database}
    (hagrees : ∀ q : Query, q.Agrees (seen q) (seen' q)) :
    fetchSeeing seen = fetchSeeing seen' := by
  have hflags : (seen .flags).readFlags = (seen' .flags).readFlags := hagrees .flags
  have hsegments : (seen .segments).readSegments = (seen' .segments).readSegments :=
    hagrees .segments
  have hconstraints : (seen .constraints).readConstraints =
      (seen' .constraints).readConstraints := hagrees .constraints
  have hdistributions : (seen .distributions).readDistributions =
      (seen' .distributions).readDistributions := hagrees .distributions
  have hvariants : (seen .variants).readVariants = (seen' .variants).readVariants :=
    hagrees .variants
  have htags : (seen .tags).readTags = (seen' .tags).readTags := hagrees .tags
  simp only [fetchSeeing, fetchThrough, hflags, hsegments, hconstraints, hdistributions,
    hvariants, htags]

theorem Unchanged.agrees {db : Database} {changes : List (Database → Database)} {q : Query}
    {m n : Nat} (h : Unchanged db changes q m n) (hle : m ≤ n) :
    q.Agrees (stateAfter db changes m) (stateAfter db changes n) := by
  induction hle with
  | refl => exact .refl q _
  | @step n hle ih =>
      have hbefore := ih fun k hmk hkn => h k hmk (Nat.lt_succ_of_lt hkn)
      exact hbefore.trans (h n hle (Nat.lt_succ_self n))

/-- What a query sees is what it would see of another state, if no transaction between
the two changes what it reads. -/
theorem agrees_seenBy {db : Database} {events : List Event} {q : Query} {n : Nat}
    (hbefore : Unchanged db (changes events) q (commitsBefore events q.place) n)
    (hafter : Unchanged db (changes events) q n (commitsBefore events q.place)) :
    q.Agrees (seenBy db events q) (stateAfter db (changes events) n) := by
  rcases Nat.le_total (commitsBefore events q.place) n with hle | hle
  · exact hbefore.agrees hle
  · exact (hafter.agrees hle).symm

/-- A fetch gives the flags of the states that its queries see, which come in the order
of the queries. Of a later query it is as if it saw the state of an earlier one, if no
transaction between the two changes what it reads. All flags are those of one state, if
no transaction before it changes what a query read already, and none after it what a
query is still to read. -/
theorem fetch_of_outcome {db : Database} {events : List Event} {flags : List Flag}
    (houtcome : ((Session.start db).run events).outcome = some (.ok flags)) :
    fetchSeeing (seenBy db events) = .ok flags ∧
    (∀ q q' : Query, q.place ≤ q'.place →
      commitsBefore events q.place ≤ commitsBefore events q'.place ∧
      (Unchanged db (changes events) q' (commitsBefore events q.place)
        (commitsBefore events q'.place) →
          q'.Agrees (seenBy db events q) (seenBy db events q'))) ∧
    ∀ n, (∀ q, Unchanged db (changes events) q (commitsBefore events q.place) n) →
      (∀ q, Unchanged db (changes events) q n (commitsBefore events q.place)) →
      fetch (stateAfter db (changes events) n) = .ok flags := by
  have hflags := fetchSeeing_of_outcome houtcome
  refine ⟨hflags, ?_, ?_⟩
  · intro q q' hle
    have hcommits := commitsBefore_mono events hle
    exact ⟨hcommits, fun hunchanged => hunchanged.agrees hcommits⟩
  · intro n hbefore hafter
    calc
      fetch (stateAfter db (changes events) n) =
          fetchSeeing fun _ => stateAfter db (changes events) n := rfl
      _ = fetchSeeing (seenBy db events) :=
        fetchSeeing_congr fun q => (agrees_seenBy (hbefore q) (hafter q)).symm
      _ = .ok flags := hflags

/-- A flag with one segment, for entities of one country. -/
def guarded : Database :=
  ⟨some [⟨1, "a", none, true, none, none⟩], some [⟨10, 1, none, 0, 100, none⟩],
    some [⟨100, 10, "country", "EQ", "\"CA\"", none⟩], some [], some [], some [], some []⟩

def tagFlag (db : Database) : Database :=
  { db with tags := some [⟨1, "t", none⟩], tagLinks := some [⟨1, 1⟩] }

/-- Marks all segments as deleted, together with their constraints. -/
def deleteSegments (db : Database) : Database :=
  { db with
    segments := db.segments.map fun rows => rows.map ({ · with deletedAt := some "now" })
    constraints := db.constraints.map fun rows =>
      rows.map ({ · with deletedAt := some "now" }) }

/-- A transaction that is committed after the segments were read. -/
def during (change : Database → Database) : List Event :=
  [.read, .read, .commit change, .read, .read, .read, .read]

theorem fetch_during_tagFlag :
    ∃ flags, ((Session.start guarded).run (during tagFlag)).outcome = some (.ok flags) ∧
      fetch (tagFlag guarded) = .ok flags := by
  obtain ⟨flags, houtcome⟩ :
      ∃ flags, ((Session.start guarded).run (during tagFlag)).outcome = some (.ok flags) :=
    ⟨_, by cbv⟩
  refine ⟨flags, houtcome, (fetch_of_outcome houtcome).2.2 1 ?_ ?_⟩
  · intro q k hle hlt
    obtain rfl : k = 0 := Nat.lt_one_iff.mp hlt
    cases q with
    | tags => exact absurd hle (by decide)
    | _ => rfl
  · intro q k hle hlt
    have hone : commitsBefore (during tagFlag) q.place ≤ 1 := by
      cases q <;> decide
    omega

theorem not_forall_exists_fetch :
    ¬ ∀ db events flags, ((Session.start db).run events).outcome = some (.ok flags) →
      ∃ n, fetch (stateAfter db (changes events) n) = .ok flags := by
  intro h
  have houtcome : ((Session.start guarded).run (during deleteSegments)).outcome =
      some (.ok [⟨1, "a", "", true, none, [⟨10, 1, "", 0, 100, [], []⟩], [], []⟩]) := by
    cbv
  obtain ⟨n, hn⟩ := h _ _ _ houtcome
  cases n with
  | zero =>
      have hfetch : fetch guarded = .ok [⟨1, "a", "", true, none,
          [⟨10, 1, "", 0, 100, [⟨100, 10, "country", "EQ", "\"CA\""⟩], []⟩], [], []⟩] := by
        cbv
      rw [stateAfter_zero, hfetch] at hn
      simp at hn
  | succ n =>
      have hfetch : fetch (deleteSegments guarded) =
          .ok [⟨1, "a", "", true, none, [], [], []⟩] := by cbv
      have hstate : stateAfter guarded (changes (during deleteSegments)) (n + 1) =
          deleteSegments guarded := by
        cases n <;> rfl
      rw [hstate, hfetch] at hn
      simp at hn

end FeatureFlags.Database
