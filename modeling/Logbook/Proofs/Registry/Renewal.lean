/-
A logger that is given to a registry owes nothing to those before it, whatever a program did with
them and still does through its handles.  Those before it go on as if it were not there.  Main
statement: `Program.renewed_run`.
-/
import Logbook.Proofs.Registry.Program

namespace Logbook

variable {C T P W : Type}

namespace Program

/-- What a program comes to that gives a new logger to the registry and goes on. -/
def afterRenewal (facilities : Facilities C T P W) (program : Program C T P W)
    (renewal : Renewal C T) (uses : List (Use T)) : Program C T P W :=
  program.run facilities (.renew renewal :: uses.map .use)

section AfterRenewal

variable (facilities : Facilities C T P W) {program : Program C T P W} (renewal : Renewal C T)
  (uses : List (Use T))

/-- After a renewal there is no need for a fallback. -/
theorem afterRenewal_eq :
    program.afterRenewal facilities renewal uses =
      (program.renew facilities renewal).attendAll facilities
        (uses.filterMap (Use.assigned? program.handles (some program.desks.length))) := by
  have huses := run_uses facilities (program.renew facilities renewal) uses (by simp)
  rwa [handles_renew, registry_renew] at huses

@[simp] theorem registry_afterRenewal :
    (program.afterRenewal facilities renewal uses).registry =
      ⟨some program.desks.length, true⟩ := by
  rw [afterRenewal_eq, registry_attendAll, registry_renew]

@[simp] theorem handles_afterRenewal :
    (program.afterRenewal facilities renewal uses).handles = program.handles := by
  rw [afterRenewal_eq, handles_attendAll, handles_renew]

/-- The shared logger is what the errands with it make of a new logger. -/
theorem sharedDesk_afterRenewal (h : program.Sound) :
    ∃ desk, (program.afterRenewal facilities renewal uses).sharedDesk? = some desk ∧
      desk.Matches ((facilities.opened renewal.plan).run facilities.ownOutlets
        (renewal.errands ++ uses.filterMap Use.shared?)) := by
  have hnew : program.desks.length ∉ program.handles :=
    fun hmem => Nat.lt_irrefl _ (h.handles _ hmem)
  obtain ⟨desk, hdesk, hmatches⟩ := desk_renew facilities program renewal
  obtain ⟨after, hafter, hrun⟩ := desk_attendAll facilities
    (uses.filterMap (Use.assigned? program.handles (some program.desks.length))) hdesk
  refine ⟨after, ?_, ?_⟩
  · rw [sharedDesk?, registry_afterRenewal, afterRenewal_eq]
    exact hafter
  · rw [errandsOf_shared hnew] at hrun
    rw [GuardedDesk.run, List.foldl_append]
    exact hrun.trans (hmatches.run _ _)

/-- A logger from before is what the errands through its handles make of it. -/
theorem desk_afterRenewal {id : LoggerId} {desk : GuardedDesk C T (Heard C T P)}
    (hdesk : program.desks[id]? = some desk) :
    ∃ after, (program.afterRenewal facilities renewal uses).desks[id]? = some after ∧
      after.Matches (desk.run facilities.ownOutlets
        (uses.filterMap (Use.through? program.handles id))) := by
  have hlt : id < program.desks.length := (List.getElem?_eq_some_iff.mp hdesk).1
  have hkept := (desk_renew_of_lt facilities program renewal hlt).trans hdesk
  have hrun := desk_attendAll facilities
    (uses.filterMap (Use.assigned? program.handles (some program.desks.length))) hkept
  have hother : some program.desks.length ≠ some id := by simpa using (Nat.ne_of_lt hlt).symm
  rwa [← afterRenewal_eq, errandsOf_handle hother] at hrun

/-- It would be the same if nothing had been renewed. -/
theorem desk_run_handles {id : LoggerId} {desk : GuardedDesk C T (Heard C T P)}
    (hdesk : program.desks[id]? = some desk) :
    ∃ after, (program.run facilities ((uses.filter (!·.isShared)).map .use)).desks[id]? =
        some after ∧
      after.Matches (desk.run facilities.ownOutlets
        (uses.filterMap (Use.through? program.handles id))) := by
  have hnoFallback : ∀ use ∈ uses.filter (!·.isShared),
      use.isShared = true → program.registry.current.isSome = true := by
    intro use huse hshared
    simp [hshared] at huse
  have hrun := desk_attendAll facilities ((uses.filter (!·.isShared)).filterMap
    (Use.assigned? program.handles program.registry.current)) hdesk
  rw [← run_uses facilities program _ hnoFallback] at hrun
  rwa [assigned_filter, errandsOf_handle (by simp), through_filter] at hrun

end AfterRenewal

/-- A program gives a new logger to the registry and goes on.  Nothing from before comes to the new
logger, and nothing that is done with the new logger comes to those that there were. -/
structure Renewed (facilities : Facilities C T P W) (program : Program C T P W)
    (renewal : Renewal C T) (uses : List (Use T)) (world : W) : Prop where
  /-- The shared logger, what it printed and sent, and its replies are those of a program that
  begins with the renewal, in whatever world, and has no handles.  The plan and the errands with
  it say what its settings, its counter and its records are. -/
  shared : ∃ desk desk',
    (program.afterRenewal facilities renewal uses).sharedDesk? = some desk ∧
    (({ world } : Program C T P W).afterRenewal facilities renewal
      (uses.filter Use.isShared)).sharedDesk? = some desk' ∧
    desk.Matches desk' ∧
    desk.Kept renewal.plan facilities.standard (renewal.errands ++ uses.filterMap Use.shared?)
  /-- A logger from before is the same as in a program that leaves out the renewal and the errands
  with the shared logger. -/
  earlier : ∀ id < program.desks.length, ∃ desk desk',
    (program.afterRenewal facilities renewal uses).desks[id]? = some desk ∧
    (program.run facilities ((uses.filter (!·.isShared)).map .use)).desks[id]? = some desk' ∧
    desk.Matches desk'
  /-- The handles are still those of loggers from before. -/
  handles : (program.afterRenewal facilities renewal uses).handles = program.handles ∧
    ∀ id ∈ program.handles, id < program.desks.length
  /-- One more errand through a handle changes no logger but the one of the handle. -/
  apart : ∀ k id errand, program.handles[k]? ≠ some id →
    ((program.afterRenewal facilities renewal uses).step facilities
      (.use (.handle k errand))).desks[id]? =
      (program.afterRenewal facilities renewal uses).desks[id]?
  /-- The registry shares the new logger, and knows that it was given. -/
  registry : (program.afterRenewal facilities renewal uses).registry =
    ⟨some program.desks.length, true⟩

/-- Whatever a program did before, a renewal forgets it. -/
theorem renewed_run (facilities : Facilities C T P W) (start world : W)
    (history : List (Deed C T)) (renewal : Renewal C T) (uses : List (Use T)) :
    Renewed facilities (({ world := start } : Program C T P W).run facilities history) renewal uses
      world := by
  have hsound := (sound_start start).run facilities history
  generalize ({ world := start } : Program C T P W).run facilities history = program at hsound
  constructor
  case shared =>
    have hfresh : ({ world } : Program C T P W).Sound := sound_start world
    obtain ⟨desk, hdesk, hmatches⟩ := sharedDesk_afterRenewal facilities renewal uses hsound
    obtain ⟨desk', hdesk', hmatches'⟩ := sharedDesk_afterRenewal facilities renewal
      (uses.filter Use.isShared) hfresh
    rw [shared_filter] at hmatches'
    exact ⟨desk, desk', hdesk, hdesk', hmatches.trans hmatches'.symm,
      .of_alike hmatches.toAlike (GuardedDesk.kept_run _ _ _ _ _)⟩
  case earlier =>
    intro id hid
    have hdesk := List.getElem?_eq_getElem hid
    obtain ⟨after, hafter, hmatches⟩ := desk_afterRenewal facilities renewal uses hdesk
    obtain ⟨after', hafter', hmatches'⟩ := desk_run_handles facilities uses hdesk
    exact ⟨after, after', hafter, hafter', hmatches.trans hmatches'.symm⟩
  case handles => exact ⟨handles_afterRenewal _ _ _, hsound.handles⟩
  case apart =>
    intro k id errand hid
    exact desk_step_handle _ _ (by rwa [handles_afterRenewal]) errand
  case registry => exact registry_afterRenewal _ _ _

end Program

namespace RenewalWitness

/-- Consoles that do nothing, and transports that note in the world what they get. -/
def facilities : Facilities Unit String Unit (List (String × String)) where
  standard := ()
  place _ := ()
  print _ _ := pure ()
  spill _ _ _ world := world
  deliver transport record := modify (· ++ [(transport, record.message)])

/-- The threshold of the first logger is not that of the second, and its handle stays its own. -/
example :
    let after := ({ world := [] } : Program Unit String Unit _).run facilities
      [.renew (.withTransport "arm" "a"), .take,
        .use (.shared (⟨0, 0⟩, .task (.plain (.set (.minLevel .error))))),
        .use (.shared (⟨0, 0⟩, .task (.plain (.log ⟨.error, "x", none⟩)))),
        .renew (.withTransport "base" "b"),
        .use (.handle 0 (⟨0, 0⟩, .task (.plain (.log ⟨.error, "y", none⟩)))),
        .use (.shared (⟨0, 0⟩, .task (.plain (.log ⟨.debug, "z", none⟩))))]
    after.world = [("a", "x"), ("a", "y"), ("b", "z")] ∧
      after.desks.map (·.inner.desk.logger.nextSeq) = [2, 1] := by
  decide +kernel

end RenewalWitness

end Logbook
