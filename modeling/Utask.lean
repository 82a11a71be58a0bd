import Utask.Gin.Chain
import Utask.Models
import Utask.Go.Path
import Utask.Auth
import Utask.TaskUtils
import Utask.Notify.Notify
import Utask.Notify.Init
import Utask.Notify.Senders
import Utask.Api.Server
import Utask.Api.Stats
import Utask.Api.Metrics
import Utask.Api.Dashboard
import Utask.Plugins.Apiovh
