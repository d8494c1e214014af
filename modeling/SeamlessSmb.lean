import SeamlessSmb.Mount
import SeamlessSmb.Usage
import SeamlessSmb.Daemon
import SeamlessSmb.Workers
import SeamlessSmb.Ownership
import SeamlessSmb.Runner
import SeamlessSmb.MountStream
import SeamlessSmb.SettingsFile
import SeamlessSmb.Connections
import SeamlessSmb.ProcessInfo
import SeamlessSmb.Controller.MountListModel
import SeamlessSmb.Controller.Agreement
import SeamlessSmb.Controller.Commands
import SeamlessSmb.Controller.Editing
import SeamlessSmb.Controller.OptionText
import SeamlessSmb.Controller.StatusMessages
import SeamlessSmb.Controller.StatusFlow
import SeamlessSmb.FileOps.Coherence
import SeamlessSmb.FileOps.Concurrent
import SeamlessSmb.FileOps.CreateNode
import SeamlessSmb.FileOps.CreateFlags
import SeamlessSmb.FileOps.Requestor
import SeamlessSmb.FileOps.Deletion
import SeamlessSmb.FileOps.Identity
import SeamlessSmb.FileOps.Isolation
import SeamlessSmb.FileOps.Restarts
import SeamlessSmb.FileOps.SideBySide
import SeamlessSmb.FileOps.Lifetime
import SeamlessSmb.FileOps.SharedHandle
import SeamlessSmb.FileOps.CountTable
import SeamlessSmb.FileOps.SingleWrite
import SeamlessSmb.FileOps.CachedRead
import SeamlessSmb.FileOps.Population
import SeamlessSmb.FileOps.Status
import SeamlessSmb.FileOps.Rereading
import SeamlessSmb.FileOps.Listings
import SeamlessSmb.WinSec
import SeamlessSmb.FileOps.Searches
import SeamlessSmb.Monitor
import SeamlessSmb.Controller.View
import SeamlessSmb.DefaultDescriptor
