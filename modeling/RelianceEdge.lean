import RelianceEdge.Alloc.Complete
import RelianceEdge.Mount.Untouched
import RelianceEdge.Util.Atoi
import RelianceEdge.Util.MulDiv
import RelianceEdge.Heap.GiveBack
import RelianceEdge.Mount.Geometry
import RelianceEdge.Tree.Coordinates
import RelianceEdge.Pool.Checksum
import RelianceEdge.Space.GetCwd
import RelianceEdge.Orphan.NameTree
import RelianceEdge.Orphan.Session
import RelianceEdge.Handle.MarkCalls
import RelianceEdge.Handle.Lifetime
