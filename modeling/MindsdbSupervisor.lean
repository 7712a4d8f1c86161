import MindsdbSupervisor.TrunkProcess
import MindsdbSupervisor.RestartWindow
import MindsdbSupervisor.State
import MindsdbSupervisor.Startup
import MindsdbSupervisor.Shutdown
import MindsdbSupervisor.JoinProcess
import MindsdbSupervisor.Monitor
import MindsdbSupervisor.Safety
import MindsdbSupervisor.Predictor
import MindsdbSupervisor.ConcurrentSweep
import MindsdbSupervisor.Obsolete
import MindsdbSupervisor.ProcessTable
import MindsdbSupervisor.Program
import MindsdbSupervisor.HealthCheck
import MindsdbSupervisor.StartupDatabase
