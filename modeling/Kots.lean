import Kots.Effect.Prog
import Kots.Effect.Go
import Kots.Effect.Handler
import Kots.UpdateChecker.Types
import Kots.UpdateChecker.CheckForUpdates
import Kots.UpdateChecker.Runs
import Kots.UpdateChecker.Returns
import Kots.UpdateChecker.Staging
import Kots.UpdateChecker.World
import Kots.UpdateChecker.SingleFlight
import Kots.UpdateChecker.ArchiveDir
import Kots.UpdateChecker.Cron
import Kots.UpdateChecker.Configure
import Kots.UpdateChecker.Registry
import Kots.UpdateChecker.Settings
import Kots.UpdateChecker.Scheduled
import Kots.UpdateChecker.Handoff
import Kots.UpdateChecker.Lifetime
import Kots.Cli.Install
import Kots.Cli.InstallRun
import Kots.Cli.InstallRuns
import Kots.Cli.InstallProperties
import Kots.Handlers.Types
import Kots.Handlers.Upload
import Kots.Handlers.UploadRuns
import Kots.Handlers.UploadProperties
import Kots.Handlers.DownstreamOutput
import Kots.Resolvers.Apps
