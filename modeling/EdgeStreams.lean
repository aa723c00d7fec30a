import EdgeStreams.Bench.Requests
import EdgeStreams.Builtin.Logger
import EdgeStreams.Builtin.ObjectStore
import EdgeStreams.Guest.Script
import EdgeStreams.Host.Memory
import EdgeStreams.Proofs.Host.Bodies
import EdgeStreams.Proofs.Session.Writing
import EdgeStreams.Worker.Basic
import EdgeStreams.Proofs.Session.Algorithms
import EdgeStreams.Proofs.Session.Flow
import EdgeStreams.Proofs.Session.Frame
import EdgeStreams.Proofs.Pipeline.Basic
import EdgeStreams.Proofs.Pipeline.Kept
import EdgeStreams.Proofs.Pipeline.Reading
import EdgeStreams.Proofs.Pipeline.Spring
import EdgeStreams.Proofs.Pipeline.Crossing
import EdgeStreams.Proofs.Pipeline.Outlet
import EdgeStreams.Proofs.Pipeline.Cancel
import EdgeStreams.Proofs.Pipeline.Pumping
import EdgeStreams.Proofs.Pipeline.Pulling
import EdgeStreams.Proofs.Pipeline.Driving
import EdgeStreams.Proofs.Pipeline.Starting
import EdgeStreams.Proofs.Registry.Adding
import EdgeStreams.Proofs.Session.Creating
import EdgeStreams.Proofs.Pipeline.Laying
import EdgeStreams.Proofs.Pipeline.Schedule
import EdgeStreams.Proofs.Pipeline.Outcome
import EdgeStreams.Proofs.Session.Touching
import EdgeStreams.Proofs.Session.Reach
import EdgeStreams.Proofs.Session.Moves
import EdgeStreams.Proofs.Registry.Locks
import EdgeStreams.Proofs.Registry.Locking
import EdgeStreams.Proofs.Session.Locking
import EdgeStreams.Proofs.Client.Basic
import EdgeStreams.Proofs.Client.Locks
import EdgeStreams.Proofs.Client.Sources
import EdgeStreams.Proofs.Session.Controller
import EdgeStreams.Proofs.Response.Well
import EdgeStreams.Proofs.Response.Origin
import EdgeStreams.Proofs.Response.Transfer
import EdgeStreams.Proofs.Response.Drains
import EdgeStreams.Proofs.Response.Relay
import EdgeStreams.Proofs.Response.Opening
import EdgeStreams.Proofs.Response.Through
import EdgeStreams.Proofs.Response.Sending
import EdgeStreams.Proofs.Response.Delivery
import EdgeStreams.Proofs.Response.Requests
import EdgeStreams.Proofs.Session.Quiescence
import EdgeStreams.Proofs.Session.Leftovers
import EdgeStreams.Proofs.Response.Leftovers
import EdgeStreams.Proofs.Session.Resting
import EdgeStreams.Proofs.Session.Ripples
import EdgeStreams.Proofs.Session.Deeds
import EdgeStreams.Proofs.Session.Advancing
import EdgeStreams.Proofs.Session.Revising
import EdgeStreams.Proofs.Session.Courses
import EdgeStreams.Proofs.Session.Flowing
import EdgeStreams.Proofs.Session.Shifting
import EdgeStreams.Proofs.Session.Operating
import EdgeStreams.Proofs.Client.Public
import EdgeStreams.Proofs.Host.Watching
import EdgeStreams.Proofs.Session.Watched
import EdgeStreams.Proofs.Session.Delivering
import EdgeStreams.Proofs.Session.Draining
import EdgeStreams.Proofs.Session.Drawing
import EdgeStreams.Proofs.Session.Ending
import EdgeStreams.Proofs.Client.Exclusion
import EdgeStreams.Proofs.Wiring.Stock
import EdgeStreams.Proofs.Body.Reexposing
import EdgeStreams.Proofs.Body.Steps
import EdgeStreams.Proofs.Wiring.Measuring
import EdgeStreams.Proofs.Wiring.Operations
import EdgeStreams.Proofs.Session.Amounting
import EdgeStreams.Proofs.Session.Settled
import EdgeStreams.Proofs.Queue.Conveying
import EdgeStreams.Proofs.Queue.Passing
import EdgeStreams.Proofs.Queue.Taking
import EdgeStreams.Proofs.Transform.Output
import EdgeStreams.Proofs.Transform.Halves
import EdgeStreams.Proofs.Transform.Computing
import EdgeStreams.Proofs.Client.Names
import EdgeStreams.Proofs.Piping.Halves
import EdgeStreams.Proofs.Piping.Endings
import EdgeStreams.Proofs.Piping.Waiting
import EdgeStreams.Proofs.Piping.Coupling
import EdgeStreams.Proofs.Piping.Pumped
import EdgeStreams.Proofs.Body.OneShot
import EdgeStreams.Proofs.Client.Forgetting
import EdgeStreams.Proofs.Client.Isolation
import EdgeStreams.Proofs.Client.Backpressure
import EdgeStreams.Proofs.SlotMap.Ledger
import EdgeStreams.Proofs.Host.Queues
import EdgeStreams.Proofs.Builtin.Checking
import EdgeStreams.Proofs.Body.Stalling
import EdgeStreams.Proofs.Client.Sweeping
import EdgeStreams.Proofs.Piping.Attributing
import EdgeStreams.Proofs.Client.Showing
import EdgeStreams.Proofs.Client.Tearing
import EdgeStreams.Proofs.Pipeline.Tearing
import EdgeStreams.Proofs.Body.Emptying
import EdgeStreams.Proofs.Builtin.Storing
import EdgeStreams.Proofs.Registry.Room
import EdgeStreams.Proofs.Breaking.Answering
import EdgeStreams.Proofs.Builtin.Grammar
import EdgeStreams.Proofs.Piping.Refused
import EdgeStreams.Proofs.Client.Bridging
import EdgeStreams.Proofs.Client.Piecewise
import EdgeStreams.Proofs.Host.Injecting
import EdgeStreams.Proofs.Host.Sharing
import EdgeStreams.Proofs.Queue.Counting
import EdgeStreams.Proofs.Session.Counting
import EdgeStreams.Proofs.Client.Counting
import EdgeStreams.Proofs.Session.Priming
import EdgeStreams.Proofs.Transform.Failing
import EdgeStreams.Proofs.Builtin.Reporting
import EdgeStreams.Proofs.Builtin.Agreeing
