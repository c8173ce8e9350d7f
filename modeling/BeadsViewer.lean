import BeadsViewer.Model
import BeadsViewer.GoMap
import BeadsViewer.Loader.Http
import BeadsViewer.Datasource.HttpPoller
import BeadsViewer.Analysis.Insights
import BeadsViewer.Gonum.Graph
import BeadsViewer.Gonum.Tarjan
import BeadsViewer.Gonum.Topo
import BeadsViewer.Gonum.Johnson
import BeadsViewer.Gonum.Unblock
import BeadsViewer.Gonum.Circuit
import BeadsViewer.Analysis.Analyzer
import BeadsViewer.Analysis.Stats
import BeadsViewer.Analysis.Density
import BeadsViewer.Cmd.Recipe
import BeadsViewer.Render
import BeadsViewer.Viewer
import BeadsViewer.Viewer.Metrics
import BeadsViewer.Viewer.GraphData
import BeadsViewer.Viewer.Interaction
import BeadsViewer.Viewer.Labels
import BeadsViewer.Datasource.Discovery
import BeadsViewer.Version
