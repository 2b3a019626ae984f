import ReadNotify.Guarded
import ReadNotify.Kernel.Other
import ReadNotify.Scenario.Run
import ReadNotify.Proofs.Registry.Refinement
import ReadNotify.Proofs.Registration.Generations
import ReadNotify.Proofs.Registration.Ownership
import ReadNotify.Proofs.Streams.Conservation
import ReadNotify.Proofs.Streams.Writing
import ReadNotify.Proofs.Registry.Windows
import ReadNotify.Proofs.Registry.Filling
import ReadNotify.Proofs.Service.Churn
import ReadNotify.Proofs.Service.Scripts
import ReadNotify.Proofs.Service.Turns
import ReadNotify.Proofs.Registry.Removal
import ReadNotify.Proofs.Shutdown.ChainSteps
import ReadNotify.Proofs.Shutdown.LivePlaces
import ReadNotify.Proofs.Streams.Teardown
import ReadNotify.Proofs.Shutdown.Leftovers
import ReadNotify.Proofs.Shutdown.Release
import ReadNotify.Proofs.Readiness.Agreement
import ReadNotify.Proofs.Readiness.Following
import ReadNotify.Proofs.Registry.Delay
import ReadNotify.Proofs.Service.Listed
import ReadNotify.Proofs.Service.Deadlines
import ReadNotify.Proofs.Callbacks.Linear
import ReadNotify.Proofs.Callbacks.Overlap
import ReadNotify.Proofs.Registration.Races
import ReadNotify.Proofs.Shutdown.Unsetting
import ReadNotify.Proofs.Workers.Lifecycle
import ReadNotify.Proofs.Workers.Waiting
import ReadNotify.Proofs.Dispatch.Cycles
import ReadNotify.Proofs.Registration.Refusals
import ReadNotify.Proofs.Handles.Terminal
import ReadNotify.Proofs.Callbacks.Locks
import ReadNotify.Proofs.Registry.Pruning
import ReadNotify.Proofs.Readiness.Timeouts
