import Testbench.Proofs.Bench.Benchmarks
import Testbench.Proofs.Bench.Ending
import Testbench.Proofs.Memory.Contents
import Testbench.Session.Program
import Testbench.Proofs.Bench.Calls
import Testbench.Proofs.Bench.Delivery
import Testbench.Proofs.Bench.Failure
import Testbench.Proofs.Channel.Handshakes
import Testbench.Proofs.Bench.Observation
import Testbench.Proofs.Bench.Tracing
import Testbench.Proofs.Session.Preloaded
import Testbench.Proofs.Memory.RoundTrips
import Testbench.Proofs.Bench.Duration
import Testbench.Proofs.Bench.Sending
import Testbench.Proofs.Channel.Persistence
import Testbench.Proofs.Session.Refusal
import Testbench.Proofs.Bench.Requests
import Testbench.Proofs.Bench.Stopping
import Testbench.Proofs.Bench.Independence
import Testbench.Proofs.Image.Problems
import Testbench.Proofs.Image.Rendering
import Testbench.Proofs.Image.Capacity
import Testbench.Proofs.Memory.Acknowledgements
import Testbench.Proofs.Marker.Events
import Testbench.Proofs.Bench.Releasing
import Testbench.Proofs.Memory.Soundness
import Testbench.Proofs.Host.Carrying
import Testbench.Proofs.Bench.Watching
import Testbench.Proofs.Session.Precedence
