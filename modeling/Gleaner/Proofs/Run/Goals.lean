import Gleaner.Proofs.Run.Staleness
import Mathlib.Logic.Function.Iterate

/-!
# Goals of repetitions

A goal is a tree of conditions on what the whole run has saved, on the stale passes, on the
scrolls in the repetition, and on what the page says. The page is asked whether there are more
items only where the verdict depends on it, and it may answer otherwise the next time. So the
answers are taken one after the other, and a verdict comes with the number of those it used.
-/

set_option autoImplicit false

namespace Gleaner

variable {σ α : Type}

/-!
## Goals
-/

/-- What a goal is judged by: the number of saved items, the scrolls since the repetition began,
whether the passes are stale, and what the page answers each time it is asked. -/
structure Evidence where
  saved : Nat
  scrolls : Nat
  stale : Bool
  answers : Nat → Bool

mutual

/-- The verdict on a goal, of whose answers the first `asked` were used before, with how many
are used after it. -/
def Until.judge (evidence : Evidence) : Until → (asked : Nat) → Bool × Nat
  | .collected count, asked => (count ≤ evidence.saved, asked)
  | .noMoreItems, asked =>
      if evidence.stale then (true, asked) else (evidence.answers asked, asked + 1)
  | .maxScrolls count, asked => (count ≤ evidence.scrolls, asked)
  | .all parts, asked => Until.judgeAll evidence parts asked
  | .any parts, asked => Until.judgeAny evidence parts asked

def Until.judgeAll (evidence : Evidence) : List Until → (asked : Nat) → Bool × Nat
  | [], asked => (true, asked)
  | part :: rest, asked =>
      let (held, used) := part.judge evidence asked
      if held then Until.judgeAll evidence rest used else (false, used)

def Until.judgeAny (evidence : Evidence) : List Until → (asked : Nat) → Bool × Nat
  | [], asked => (false, asked)
  | part :: rest, asked =>
      let (held, used) := part.judge evidence asked
      if held then (true, used) else Until.judgeAny evidence rest used

end

mutual

/-- A goal as a formula, for a page that always gives the same answer. -/
def Until.met (evidence : Evidence) (noMore : Bool) : Until → Bool
  | .collected count => count ≤ evidence.saved
  | .noMoreItems => evidence.stale || noMore
  | .maxScrolls count => count ≤ evidence.scrolls
  | .all parts => Until.allMet evidence noMore parts
  | .any parts => Until.anyMet evidence noMore parts

def Until.allMet (evidence : Evidence) (noMore : Bool) : List Until → Bool
  | [] => true
  | part :: rest => part.met evidence noMore && Until.allMet evidence noMore rest

def Until.anyMet (evidence : Evidence) (noMore : Bool) : List Until → Bool
  | [] => false
  | part :: rest => part.met evidence noMore || Until.anyMet evidence noMore rest

end

section Judging

variable (evidence : Evidence)

mutual

/-- Judging uses answers up, it never takes one back. -/
theorem Until.le_judge (goal : Until) (asked : Nat) : asked ≤ (goal.judge evidence asked).2 := by
  cases goal with
  | collected count => exact Nat.le_refl asked
  | noMoreItems =>
      rw [Until.judge]
      cases evidence.stale with
      | true => exact Nat.le_refl asked
      | false => exact Nat.le_succ asked
  | maxScrolls count => exact Nat.le_refl asked
  | all parts => exact Until.le_judgeAll parts asked
  | any parts => exact Until.le_judgeAny parts asked

theorem Until.le_judgeAll (parts : List Until) (asked : Nat) :
    asked ≤ (Until.judgeAll evidence parts asked).2 := by
  cases parts with
  | nil => exact Nat.le_refl asked
  | cons part rest =>
      have first := Until.le_judge part asked
      simp only [Until.judgeAll]
      cases (part.judge evidence asked).1 with
      | true => exact first.trans (Until.le_judgeAll rest _)
      | false => exact first

theorem Until.le_judgeAny (parts : List Until) (asked : Nat) :
    asked ≤ (Until.judgeAny evidence parts asked).2 := by
  cases parts with
  | nil => exact Nat.le_refl asked
  | cons part rest =>
      have first := Until.le_judge part asked
      simp only [Until.judgeAny]
      cases (part.judge evidence asked).1 with
      | true => exact first
      | false => exact first.trans (Until.le_judgeAny rest _)

end

variable {evidence} {noMore : Bool}

mutual

/-- Where the page always gives the same answer, the verdict is the value of the formula. -/
theorem Until.judge_steady (same : ∀ n, evidence.answers n = noMore) (goal : Until)
    (asked : Nat) :
    (goal.judge evidence asked).1 = goal.met evidence noMore := by
  cases goal with
  | collected count => rfl
  | noMoreItems =>
      rw [Until.judge, Until.met]
      cases evidence.stale with
      | true => rfl
      | false => exact same asked
  | maxScrolls count => rfl
  | all parts => exact Until.judgeAll_steady same parts asked
  | any parts => exact Until.judgeAny_steady same parts asked

theorem Until.judgeAll_steady (same : ∀ n, evidence.answers n = noMore) (parts : List Until)
    (asked : Nat) :
    (Until.judgeAll evidence parts asked).1 = Until.allMet evidence noMore parts := by
  cases parts with
  | nil => rfl
  | cons part rest =>
      simp only [Until.judgeAll, Until.allMet, Until.judge_steady same part asked]
      cases part.met evidence noMore with
      | true => exact Until.judgeAll_steady same rest _
      | false => rfl

theorem Until.judgeAny_steady (same : ∀ n, evidence.answers n = noMore) (parts : List Until)
    (asked : Nat) :
    (Until.judgeAny evidence parts asked).1 = Until.anyMet evidence noMore parts := by
  cases parts with
  | nil => rfl
  | cons part rest =>
      simp only [Until.judgeAny, Until.anyMet, Until.judge_steady same part asked]
      cases part.met evidence noMore with
      | true => rfl
      | false => exact Until.judgeAny_steady same rest _

end

end Judging

/-!
## Asking the page
-/

theorem Except.exists_of_isOk {result : Except Fault α} (told : result.isOk = true) :
    ∃ value, result = .ok value := by
  cases result with
  | ok value => exact ⟨value, rfl⟩
  | error fault => cases told

namespace Session

variable (host : Host σ) (session : Session σ)

/-- The session after the page was asked so many times whether there are no more items. -/
def asked (times : Nat) : Session σ :=
  (fun session => (Interp.noMoreItems host session).2)^[times] session

/-- What the page says when it was asked so many times before. -/
def answer (before : Nat) : Bool :=
  (Interp.noMoreItems host (session.asked host before)).1.toOption.getD false

theorem asked_succ (times : Nat) :
    session.asked host (times + 1) = (Interp.noMoreItems host (session.asked host times)).2 := by
  unfold asked
  exact Function.iterate_succ_apply' _ _ _

theorem asked_world (times : Nat) :
    ∃ world, session.asked host times = { session with world } := by
  induction times with
  | zero => exact ⟨session.world, rfl⟩
  | succ times ih =>
      obtain ⟨world, same⟩ := ih
      obtain ⟨later, reached⟩ := Interp.noMoreItems_looks host (session.asked host times)
      refine ⟨later, ?_⟩
      rw [asked_succ, reached, same]

@[simp] theorem asked_run (times : Nat) : (session.asked host times).run = session.run := by
  obtain ⟨world, same⟩ := session.asked_world host times
  rw [same]

/-- A question that the page answers. -/
theorem noMoreItems_asked {host : Host σ} {session : Session σ} {times : Nat}
    (told : (Interp.noMoreItems host (session.asked host times)).1.isOk = true) :
    Interp.noMoreItems host (session.asked host times) =
      (.ok (session.answer host times), session.asked host (times + 1)) := by
  obtain ⟨held, found⟩ := Except.exists_of_isOk told
  refine Prod.ext ?_ (session.asked_succ host times).symm
  rw [answer, found]
  rfl

/-- What the goal of a repetition is judged by after so many scrolls in it. -/
def evidence (scrolls : Nat) : Evidence where
  saved := session.run.collected.length
  scrolls
  stale := host.settings.noNewItemsLimit ≤ session.run.staleRounds
  answers := session.answer host

end Session

section Reaching

variable {host : Host σ} {session : Session σ} {before scrolls : Nat}

mutual

/-- A goal is looked up by judging it, where the page answers what it is asked for that. -/
theorem Interp.reached_judge
    (scrolled : session.run.stats.scrollsPerformed = before + scrolls)
    (goal : Until) (asked : Nat)
    (told : ∀ n, asked ≤ n → n < (goal.judge (session.evidence host scrolls) asked).2 →
      (noMoreItems host (session.asked host n)).1.isOk = true) :
    reached host before goal (session.asked host asked) =
      (.ok (goal.judge (session.evidence host scrolls) asked).1,
        session.asked host (goal.judge (session.evidence host scrolls) asked).2) := by
  cases goal with
  | collected count =>
      simp only [reached, bind_apply, run_apply, pure_apply, Session.asked_run]
      rfl
  | noMoreItems =>
      rw [reached_noMoreItems, Session.asked_run]
      simp only [Until.judge, Session.evidence] at told ⊢
      by_cases stale : host.settings.noNewItemsLimit ≤ session.run.staleRounds
      · simp only [stale, decide_true, ↓reduceIte]
      · simp only [stale, decide_false, Bool.false_eq_true, ↓reduceIte] at told ⊢
        exact Session.noMoreItems_asked (told asked (Nat.le_refl asked) (Nat.lt_succ_self asked))
  | maxScrolls count =>
      simp only [reached, bind_apply, run_apply, pure_apply, Session.asked_run, scrolled,
        Nat.add_le_add_iff_left]
      rfl
  | all parts => exact allReached_judge scrolled parts asked told
  | any parts => exact anyReached_judge scrolled parts asked told

theorem Interp.allReached_judge
    (scrolled : session.run.stats.scrollsPerformed = before + scrolls)
    (parts : List Until) (asked : Nat)
    (told : ∀ n, asked ≤ n →
      n < (Until.judgeAll (session.evidence host scrolls) parts asked).2 →
        (noMoreItems host (session.asked host n)).1.isOk = true) :
    allReached host before parts (session.asked host asked) =
      (.ok (Until.judgeAll (session.evidence host scrolls) parts asked).1,
        session.asked host (Until.judgeAll (session.evidence host scrolls) parts asked).2) := by
  cases parts with
  | nil => rfl
  | cons part rest =>
      have first := part.le_judge (session.evidence host scrolls) asked
      have used := Until.le_judgeAll (session.evidence host scrolls) rest
        (part.judge (session.evidence host scrolls) asked).2
      rw [allReached, bind_apply]
      simp only [Until.judgeAll] at told ⊢
      cases held : (part.judge (session.evidence host scrolls) asked).1 with
      | true =>
          simp only [held, ↓reduceIte] at told ⊢
          have firstTold n (since : asked ≤ n) (upTo : n < _) := told n since (upTo.trans_le used)
          rw [reached_judge scrolled part asked firstTold, held]
          exact allReached_judge scrolled rest _ fun n since upTo => told n (first.trans since) upTo
      | false =>
          simp only [held, Bool.false_eq_true, ↓reduceIte] at told ⊢
          rw [reached_judge scrolled part asked told, held]
          rfl

theorem Interp.anyReached_judge
    (scrolled : session.run.stats.scrollsPerformed = before + scrolls)
    (parts : List Until) (asked : Nat)
    (told : ∀ n, asked ≤ n →
      n < (Until.judgeAny (session.evidence host scrolls) parts asked).2 →
        (noMoreItems host (session.asked host n)).1.isOk = true) :
    anyReached host before parts (session.asked host asked) =
      (.ok (Until.judgeAny (session.evidence host scrolls) parts asked).1,
        session.asked host (Until.judgeAny (session.evidence host scrolls) parts asked).2) := by
  cases parts with
  | nil => rfl
  | cons part rest =>
      have first := part.le_judge (session.evidence host scrolls) asked
      have used := Until.le_judgeAny (session.evidence host scrolls) rest
        (part.judge (session.evidence host scrolls) asked).2
      rw [anyReached, bind_apply]
      simp only [Until.judgeAny] at told ⊢
      cases held : (part.judge (session.evidence host scrolls) asked).1 with
      | true =>
          simp only [held, ↓reduceIte] at told ⊢
          rw [reached_judge scrolled part asked told, held]
          rfl
      | false =>
          simp only [held, Bool.false_eq_true, ↓reduceIte] at told ⊢
          have firstTold n (since : asked ≤ n) (upTo : n < _) := told n since (upTo.trans_le used)
          rw [reached_judge scrolled part asked firstTold, held]
          exact anyReached_judge scrolled rest _ fun n since upTo => told n (first.trans since) upTo

end

end Reaching

end Gleaner
