import UvcFrame.Frame
import UvcFrame.Allocator
import UvcFrame.Duplicate
import UvcFrame.Pixel
import UvcFrame.Loop
import UvcFrame.Convert
import UvcFrame.Kernels
import UvcFrame.Outcome
import UvcFrame.Lifecycle
import UvcFrame.Repeat
import UvcFrame.Demo
import UvcFrame.Footprint
