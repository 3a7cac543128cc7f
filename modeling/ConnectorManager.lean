import ConnectorManager.Pod
import ConnectorManager.EventWatcher
import ConnectorManager.WatcherProtocol
import ConnectorManager.WatcherHistory
import ConnectorManager.ExternalHandle
import ConnectorManager.KeepAliveTicket
import ConnectorManager.GarbageCollector
import ConnectorManager.Refresh
import ConnectorManager.Registry
import ConnectorManager.ImageImport
import ConnectorManager.Names
import ConnectorManager.Backoff
import ConnectorManager.ServerCheck
import ConnectorManager.WatcherBackoff
import ConnectorManager.Process
import ConnectorManager.ImageRegistry
import ConnectorManager.ImageWorkflow
import ConnectorManager.RemovalTask
import ConnectorManager.Backends
import ConnectorManager.Catalogue
import ConnectorManager.Upload
import ConnectorManager.Lifecycle
import ConnectorManager.Listings
import ConnectorManager.Isolation
