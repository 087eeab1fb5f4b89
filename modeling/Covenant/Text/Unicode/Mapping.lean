import Covenant.Text.Unicode.Runs

/-!
# The mapping of characters for internationalized domain names

Before a domain name is checked, each character is mapped (Unicode Technical Standard 46):
it is kept as it is (`valid`), replaced by one or more characters (`mapped`: upper case
letters by lower case ones, compatibility forms by their plain forms, the ideographic full
stop by `.`), kept although older rules replaced it (`deviation`: the sharp s, the final
sigma and the two joiners), dropped (`ignored`: the soft hyphen, variation selectors), or
refused (`disallowed`). What a character is mapped to is always valid.

The table is written as runs, `start.value`: values below five are the other statuses,
and `5 + k` is `mapped` to the `k`-th entry of the replacement table, whose entries are
code points joined by commas.
-/

namespace Covenant.Text.Unicode

/-- What the domain-name mapping does with a character. -/
inductive Status where
  | valid
  | mapped (into : List Char)
  | deviation
  | ignored
  | disallowed
  deriving DecidableEq, Repr

/-- Where each run of one status starts, with its value. -/
def mappingTable : String :=
  String.join
    ["0.0 1t.5 1u.6 1v.7 1w.8 1x.9 1y.a 1z.b 20.c 21.d 22.e 23.f 24.g 25.h 26.i 27.j 28.k 29.l 2a.m ",
     "2b.n 2c.o 2d.p 2e.q 2f.r 2g.s 2h.t 2i.u 2j.0 3k.4 4g.v 4h.0 4o.w 4p.0 4q.5 4r.0 4t.3 4u.0 4v.x ",
     "4w.0 4y.y 4z.z 50.10 51.11 52.0 54.12 55.13 56.j 57.0 58.14 59.15 5a.16 5b.0 5c.17 5d.18 5e.19 ",
     "5f.1a 5g.1b 5h.1c 5i.1d 5j.1e 5k.1f 5l.1g 5m.1h 5n.1i 5o.1j 5p.1k 5q.1l 5r.1m 5s.1n 5t.1o 5u.1p ",
     "5v.1q 5w.1r 5x.1s 5y.1t 5z.0 60.1u 61.1v 62.1w 63.1x 64.1y 65.1z 66.20 67.2 68.0 74.21 75.0 ",
     "76.22 77.0 78.23 79.0 7a.24 7b.0 7c.25 7d.0 7e.26 7f.0 7g.27 7h.0 7i.28 7j.0 7k.29 7l.0 7m.2a ",
     "7n.0 7o.2b 7p.0 7q.2c 7r.0 7s.2d 7t.0 7u.2e 7v.0 7w.2f 7x.0 7y.2g 7z.0 80.2h 81.0 82.2i 83.0 ",
     "84.2j 85.0 86.2k 87.0 88.2l 89.0 8a.2m 8b.0 8c.2n 8d.0 8e.2o 8f.0 8g.2p 8h.0 8i.2q 8k.2r 8l.0 ",
     "8m.2s 8n.0 8p.2t 8q.0 8r.2u 8s.0 8t.2v 8u.0 8v.2w 8x.2x 8y.0 8z.2y 90.0 91.2z 92.0 93.30 94.0 ",
     "95.31 96.32 97.0 98.33 99.0 9a.34 9b.0 9c.35 9d.0 9e.36 9f.0 9g.37 9h.0 9i.38 9j.0 9k.39 9l.0 ",
     "9m.3a 9n.0 9o.3b 9p.0 9q.3c 9r.0 9s.3d 9t.0 9u.3e 9v.0 9w.3f 9x.0 9y.3g 9z.0 a0.3h a1.0 a2.3i ",
     "a3.0 a4.3j a5.0 a6.3k a7.0 a8.3l a9.0 aa.3m ab.0 ac.3n ad.0 ae.3o af.0 ag.3p ah.3q ai.0 aj.3r ",
     "ak.0 al.3s am.0 an.n ao.0 ap.3t aq.3u ar.0 as.3v at.0 au.3w av.3x aw.0 ax.3y ay.3z az.40 b0.0 ",
     "b2.41 b3.42 b4.43 b5.44 b6.0 b7.45 b8.46 b9.0 ba.47 bb.48 bc.49 bd.0 bg.4a bh.4b bi.0 bj.4c ",
     "bk.4d bl.0 bm.4e bn.0 bo.4f bp.0 bq.4g br.4h bs.0 bt.4i bu.0 bw.4j bx.0 by.4k bz.4l c0.0 c1.4m ",
     "c2.4n c3.4o c4.0 c5.4p c6.0 c7.4q c8.4r c9.0 cc.4s cd.0 ck.4t cn.4u cq.4v ct.4w cu.0 cv.4x cw.0 ",
     "cx.4y cy.0 cz.4z d0.0 d1.50 d2.0 d3.51 d4.0 d5.52 d6.0 d7.53 d8.0 da.54 db.0 dc.55 dd.0 de.56 ",
     "df.0 dg.57 dh.0 di.58 dj.0 dk.59 dl.0 dm.5a dn.0 do.5b dp.0 dq.5c dr.0 dt.5d dw.5e dx.0 dy.5f ",
     "dz.5g e0.5h e1.0 e2.5i e3.0 e4.5j e5.0 e6.5k e7.0 e8.5l e9.0 ea.5m eb.0 ec.5n ed.0 ee.5o ef.0 ",
     "eg.5p eh.0 ei.5q ej.0 ek.5r el.0 em.5s en.0 eo.5t ep.0 eq.5u er.0 es.5v et.0 eu.5w ev.0 ew.5x ",
     "ex.0 ey.5y ez.0 f0.5z f1.0 f2.60 f3.0 f4.61 f5.0 f6.62 f7.0 f8.63 f9.0 fa.64 fb.0 fc.65 fd.0 ",
     "fe.66 ff.0 fg.67 fh.0 fi.68 fj.0 fk.69 fl.0 fm.6a fn.0 fu.6b fv.6c fw.0 fx.6d fy.6e fz.0 g1.6f ",
     "g2.0 g3.6g g4.6h g5.6i g6.6j g7.0 g8.6k g9.0 ga.6l gb.0 gc.6m gd.0 ge.6n gf.0 j4.c j5.6o j6.e ",
     "j7.m j8.6p j9.6q ja.6r jb.r jc.t jd.0 k8.6s k9.6t ka.6u kb.6v kc.6w kd.6x ke.0 kg.46 kh.g ki.n ",
     "kj.s kk.6y kl.0 n4.6z n5.70 n6.0 n7.71 n8.72 n9.73 na.0 nj.3 nk.0 og.74 oh.0 oi.75 oj.0 ok.76 ",
     "ol.0 om.77 on.0 oo.4 oq.78 or.0 ou.79 ov.7a ow.4 p0.10 p1.7b p2.7c p3.7d p4.7e p5.7f p6.7g p7.4 ",
     "p8.7h p9.4 pa.7i pb.7j pc.0 pd.7k pe.7l pf.7m pg.7n ph.7o pi.7p pj.7q pk.7r pl.73 pm.7s pn.7t ",
     "po.11 pp.7u pq.7v pr.7w ps.7x pt.7y pu.4 pv.7z pw.80 px.81 py.82 pz.83 q0.84 q1.85 q2.86 q3.87 ",
     "q4.0 qq.2 qr.0 r3.88 r4.7l r5.7r r6.81 r7.7i r8.87 r9.82 ra.7x rb.0 rc.89 rd.0 re.8a rf.0 rg.8b ",
     "rh.0 ri.8c rj.0 rk.8d rl.0 rm.8e rn.0 ro.8f rp.0 rq.8g rr.0 rs.8h rt.0 ru.8i rv.0 rw.8j rx.0 ",
     "ry.8k rz.0 s0.7s s1.7y s2.7z s3.0 s4.7r s5.7o s6.0 s7.8l s8.0 s9.7z sa.8m sb.0 sd.8n se.8o sf.8p ",
     "sg.8q sh.8r si.8s sj.8t sk.8u sl.8v sm.8w sn.8x so.8y sp.8z sq.90 sr.91 ss.92 st.93 su.94 sv.95 ",
     "sw.96 sx.97 sy.98 sz.99 t0.9a t1.9b t2.9c t3.9d t4.9e t5.9f t6.9g t7.9h t8.9i t9.9j ta.9k tb.9l ",
     "tc.9m td.9n te.9o tf.9p tg.9q th.9r ti.9s tj.9t tk.9u tl.9v tm.9w tn.9x to.9y tp.9z tq.a0 tr.a1 ",
     "ts.0 v4.a2 v5.0 v6.a3 v7.0 v8.a4 v9.0 va.a5 vb.0 vc.a6 vd.0 ve.a7 vf.0 vg.a8 vh.0 vi.a9 vj.0 ",
     "vk.aa vl.0 vm.ab vn.0 vo.ac vp.0 vq.ad vr.0 vs.ae vt.0 vu.af vv.0 vw.ag vx.0 vy.ah vz.0 w0.ai ",
     "w1.0 wa.aj wb.0 wc.ak wd.0 we.al wf.0 wg.am wh.0 wi.an wj.0 wk.ao wl.0 wm.ap wn.0 wo.aq wp.0 ",
     "wq.ar wr.0 ws.as wt.0 wu.at wv.0 ww.au wx.0 wy.av wz.0 x0.aw x1.0 x2.ax x3.0 x4.ay x5.0 x6.az ",
     "x7.0 x8.b0 x9.0 xa.b1 xb.0 xc.b2 xd.0 xe.b3 xf.0 xg.b4 xh.0 xi.b5 xj.0 xk.b6 xl.0 xm.b7 xn.0 ",
     "xo.b8 xp.0 xq.b9 xr.0 xs.ba xt.bb xu.0 xv.bc xw.0 xx.bd xy.0 xz.be y0.0 y1.bf y2.0 y3.bg y4.0 ",
     "y5.bh y6.0 y8.bi y9.0 ya.bj yb.0 yc.bk yd.0 ye.bl yf.0 yg.bm yh.0 yi.bn yj.0 yk.bo yl.0 ym.bp ",
     "yn.0 yo.bq yp.0 yq.br yr.0 ys.bs yt.0 yu.bt yv.0 yw.bu yx.0 yy.bv yz.0 z0.bw z1.0 z2.bx z3.0 ",
     "z4.by z5.0 z6.bz z7.0 z8.c0 z9.0 za.c1 zb.0 zc.c2 zd.0 ze.c3 zf.0 zg.c4 zh.0 zi.c5 zj.0 zk.c6 ",
     "zl.0 zm.c7 zn.0 zo.c8 zp.0 zq.c9 zr.0 zs.ca zt.0 zu.cb zv.0 zw.cc zx.0 zy.cd zz.0 100.ce 101.0 ",
     "102.cf 103.0 104.cg 105.0 106.ch 107.0 108.ci 109.0 10a.cj 10b.0 10c.ck 10d.0 10e.cl 10f.0 ",
     "10g.cm 10h.0 10i.cn 10j.0 10k.co 10l.0 10m.cp 10n.0 10o.cq 10p.0 10q.cr 10r.0 10s.cs 10t.0 ",
     "10u.ct 10v.0 10w.4 10x.cu 10y.cv 10z.cw 110.cx 111.cy 112.cz 113.d0 114.d1 115.d2 116.d3 117.d4 ",
     "118.d5 119.d6 11a.d7 11b.d8 11c.d9 11d.da 11e.db 11f.dc 11g.dd 11h.de 11i.df 11j.dg 11k.dh ",
     "11l.di 11m.dj 11n.dk 11o.dl 11p.dm 11q.dn 11r.do 11s.dp 11t.dq 11u.dr 11v.ds 11w.dt 11x.du ",
     "11y.dv 11z.4 121.0 13b.dw 13c.0 13f.4 13h.0 13k.4 13l.0 154.4 15c.0 163.4 167.0 16d.4 16u.0 ",
     "17g.4 17h.0 19x.dx 19y.dy 19z.dz 1a0.e0 1a1.0 1ct.4 1cu.0 1e6.4 1e8.0 1fv.4 1fx.0 1iq.4 1j4.0 ",
     "1kr.4 1kt.0 1m6.4 1m8.0 1mn.4 1mo.0 1ng.4 1ni.0 1nj.4 1nk.0 1nv.4 1o0.0 1ow.4 1p3.0 1r6.4 1r7.0 ",
     "1ug.e1 1uh.e2 1ui.e3 1uj.e4 1uk.e5 1ul.e6 1um.e7 1un.e8 1uo.0 1vo.4 1vp.0 1vx.4 1vz.0 1w1.4 ",
     "1w3.0 1wp.4 1wq.0 1wx.4 1wy.0 1wz.4 1x2.0 1x6.4 1x8.0 1xh.4 1xj.0 1xl.4 1xn.0 1xr.4 1xz.0 1y0.4 ",
     "1y4.e9 1y5.ea 1y6.4 1y7.eb 1y8.0 1yc.4 1ye.0 1z3.4 1z5.0 1z8.4 1z9.0 1zf.4 1zj.0 1zl.4 1zn.0 ",
     "209.4 20a.0 20h.4 20i.0 20j.ec 20k.4 20l.0 20m.ed 20n.4 20o.0 20q.4 20s.0 20t.4 20u.0 20z.4 ",
     "213.0 215.4 217.0 21a.4 21d.0 21e.4 21l.ee 21m.ef 21n.eg 21o.0 21p.4 21q.eh 21r.4 21y.0 22f.4 ",
     "22p.0 22s.4 22t.0 232.4 233.0 236.4 237.0 23t.4 23u.0 241.4 242.0 244.4 245.0 24a.4 24c.0 24m.4 ",
     "24n.0 24q.4 24r.0 24u.4 24w.0 24x.4 25c.0 25g.4 25i.0 25u.4 261.0 268.4 269.0 26c.4 26d.0 26l.4 ",
     "26n.0 26p.4 26r.0 27d.4 27e.0 27l.4 27m.0 27o.4 27p.0 27u.4 27w.0 285.4 287.0 289.4 28b.0 28e.4 ",
     "28l.0 28o.4 28s.ei 28t.ej 28u.4 28v.0 290.4 292.0 29k.4 29u.0 29w.4 29x.0 2a3.4 2a6.0 2a9.4 ",
     "2aa.0 2ae.4 2ah.0 2aj.4 2ak.0 2al.4 2am.0 2ao.4 2ar.0 2at.4 2aw.0 2az.4 2b2.0 2be.4 2bi.0 2bn.4 ",
     "2bq.0 2bt.4 2bu.0 2by.4 2c0.0 2c1.4 2c7.0 2c8.4 2cm.0 2d7.4 2dc.0 2dp.4 2dq.0 2dt.4 2du.0 2eh.4 ",
     "2ei.0 2ey.4 2f0.0 2f9.4 2fa.0 2fd.4 2fe.0 2fi.4 2fp.0 2fr.4 2fs.0 2fv.4 2fw.0 2fy.4 2g0.0 2g4.4 ",
     "2g6.0 2gg.4 2gn.0 2h9.4 2ha.0 2hd.4 2he.0 2i1.4 2i2.0 2ic.4 2id.0 2ii.4 2ik.0 2it.4 2iu.0 2ix.4 ",
     "2iy.0 2j2.4 2j9.0 2jb.4 2jg.0 2jj.4 2jk.0 2jo.4 2jq.0 2k0.4 2k1.0 2k4.4 2kg.0 2kt.4 2ku.0 2kx.4 ",
     "2ky.0 2md.4 2me.0 2mh.4 2mi.0 2mo.4 2ms.0 2n8.4 2na.0 2o0.4 2o1.0 2o4.4 2o5.0 2on.4 2oq.0 2pe.4 ",
     "2pf.0 2po.4 2pp.0 2pq.4 2ps.0 2pz.4 2q2.0 2q3.4 2q7.0 2qd.4 2qe.0 2qf.4 2qg.0 2qo.4 2qu.0 2r4.4 ",
     "2r6.0 2r9.4 2rl.0 2sz.ek 2t0.0 2t7.4 2tb.0 2u4.4 2v5.0 2v7.4 2v8.0 2v9.4 2va.0 2vf.4 2vg.0 2w4.4 ",
     "2w5.0 2w6.4 2w7.0 2wj.el 2wk.0 2wu.4 2ww.0 2x1.4 2x2.0 2x3.4 2x4.0 2xb.4 2xc.0 2xm.4 2xo.em ",
     "2xp.en 2xq.0 2xs.4 2yo.0 2z0.eo 2z1.0 30j.ep 30k.0 30o.4 30p.0 30t.eq 30u.0 30y.er 30z.0 313.es ",
     "314.0 318.et 319.0 31l.eu 31m.0 31p.4 31t.0 31v.ev 31w.0 31x.ew 31y.ex 31z.ey 320.ez 321.f0 ",
     "322.0 329.f1 32a.0 32r.f2 32s.0 32w.4 32x.0 331.f3 332.0 336.f4 337.0 33b.f5 33c.0 33g.f6 33h.0 ",
     "33t.f7 33u.0 33x.4 33y.0 34d.4 34e.0 34r.4 35s.0 3a8.f8 3a9.f9 3aa.fa 3ab.fb 3ac.fc 3ad.fd ",
     "3ae.fe 3af.ff 3ag.fg 3ah.fh 3ai.fi 3aj.fj 3ak.fk 3al.fl 3am.fm 3an.fn 3ao.fo 3ap.fp 3aq.fq ",
     "3ar.fr 3as.fs 3at.ft 3au.fu 3av.fv 3aw.fw 3ax.fx 3ay.fy 3az.fz 3b0.g0 3b1.g1 3b2.g2 3b3.g3 ",
     "3b4.g4 3b5.g5 3b6.g6 3b7.g7 3b8.g8 3b9.g9 3ba.4 3bb.ga 3bc.4 3bh.gb 3bi.4 3bk.0 3cs.gc 3ct.0 ",
     "3fj.3 3fl.0 3m1.4 3m2.0 3m6.4 3m8.0 3mf.4 3mg.0 3mh.4 3mi.0 3mm.4 3mo.0 3nt.4 3nu.0 3ny.4 3o0.0 ",
     "3ox.4 3oy.0 3p2.4 3p4.0 3pb.4 3pc.0 3pd.4 3pe.0 3pi.4 3pk.0 3pz.4 3q0.0 3rl.4 3rm.0 3rq.4 3rs.0 ",
     "3tn.4 3tp.0 3ul.4 3uo.0 3ve.4 3vk.0 3xy.4 3y0.gd 3y1.ge 3y2.gf 3y3.gg 3y4.gh 3y5.gi 3y6.4 3y8.0 ",
     "4g0.4 4g1.0 4gt.4 4gw.0 4jd.4 4jk.0 4k6.4 4kf.0 4l3.4 4lc.0 4lw.4 4m8.0 4ml.4 4mm.0 4mp.4 4mq.0 ",
     "4ms.4 4n4.0 4ok.3 4om.0 4pq.4 4ps.0 4q2.4 4q8.0 4qi.4 4qo.0 4qz.3 4r4.0 4re.4 4rk.0 4u1.4 4u8.0 ",
     "4vf.4 4vk.0 4xi.4 4xs.0 4yn.4 4yo.0 4z0.4 4z4.0 4zg.4 4zk.0 4zl.4 4zo.0 50u.4 50w.0 511.4 51c.0 ",
     "52k.4 52o.0 53e.4 53k.0 53v.4 53y.0 55o.4 55q.0 57j.4 57k.0 58d.4 58f.0 58q.4 58w.0 596.4 59c.0 ",
     "59q.4 59s.0 5b2.4 5b4.0 5bg.4 5c0.0 5e5.4 5e6.0 5is.4 5j0.0 5ko.4 5kr.0 5l6.4 5l9.0 5mo.98 ",
     "5mp.9a 5mq.9k 5mr.9n 5ms.9o 5mu.9w 5mv.a3 5mw.gj 5mx.gk 5my.0 5mz.4 5n4.gl 5n5.gm 5n6.gn 5n7.go ",
     "5n8.gp 5n9.gq 5na.gr 5nb.gs 5nc.gt 5nd.gu 5ne.gv 5nf.gw 5ng.gc 5nh.gx 5ni.gy 5nj.gz 5nk.h0 ",
     "5nl.h1 5nm.h2 5nn.h3 5no.h4 5np.h5 5nq.h6 5nr.h7 5ns.h8 5nt.h9 5nu.ha 5nv.hb 5nw.hc 5nx.hd ",
     "5ny.he 5nz.hf 5o0.hg 5o1.hh 5o2.hi 5o3.hj 5o4.hk 5o5.hl 5o6.hm 5o7.hn 5o8.ho 5o9.hp 5oa.hq 5ob.4 ",
     "5od.hr 5oe.hs 5of.ht 5og.0 5oo.4 5ow.0 5q3.4 5q8.0 5rg.5 5rh.1d 5ri.6 5rj.0 5rk.8 5rl.9 5rm.41 ",
     "5rn.b 5ro.c 5rp.d 5rq.e 5rr.f 5rs.g 5rt.h 5ru.i 5rv.0 5rw.j 5rx.62 5ry.k 5rz.m 5s0.o 5s1.p 5s2.r ",
     "5s3.5 5s4.hu 5s5.hv 5s6.hw 5s7.6 5s8.8 5s9.9 5sa.42 5sb.43 5sc.hx 5sd.b 5se.0 5sf.f 5sg.h 5sh.32 ",
     "5si.j 5sj.3w 5sk.hy 5sl.hz 5sm.k 5sn.o 5so.p 5sp.i0 5sq.4a 5sr.q 5ss.i1 5st.7l 5su.7m 5sv.7n ",
     "5sw.82 5sx.83 5sy.d 5sz.m 5t0.p 5t1.q 5t2.7l 5t3.7m 5t4.7y 5t5.82 5t6.83 5t7.0 5tk.9j 5tl.0 ",
     "5uj.i2 5uk.7 5ul.i3 5um.1n 5un.hx 5uo.a 5up.i4 5uq.i5 5ur.i6 5us.48 5ut.47 5uu.i7 5uv.i8 5uw.i9 ",
     "5ux.ia 5uy.ib 5uz.ic 5v0.id 5v1.ie 5v2.4b 5v3.if 5v4.ig 5v5.4c 5v6.ih 5v7.ii 5v8.4i 5v9.ij ",
     "5va.6h 5vb.4m 5vc.ik 5vd.4n 5ve.6i 5vf.u 5vg.il 5vh.im 5vi.4q 5vj.7r 5vk.0 5xc.in 5xd.0 5xe.io ",
     "5xf.0 5xg.ip 5xh.0 5xi.iq 5xj.0 5xk.ir 5xl.0 5xm.is 5xn.0 5xo.it 5xp.0 5xq.iu 5xr.0 5xs.iv 5xt.0 ",
     "5xu.iw 5xv.0 5xw.ix 5xx.0 5xy.iy 5xz.0 5y0.iz 5y1.0 5y2.j0 5y3.0 5y4.j1 5y5.0 5y6.j2 5y7.0 ",
     "5y8.j3 5y9.0 5ya.j4 5yb.0 5yc.j5 5yd.0 5ye.j6 5yf.0 5yg.j7 5yh.0 5yi.j8 5yj.0 5yk.j9 5yl.0 ",
     "5ym.ja 5yn.0 5yo.jb 5yp.0 5yq.jc 5yr.0 5ys.jd 5yt.0 5yu.je 5yv.0 5yw.jf 5yx.0 5yy.jg 5yz.0 ",
     "5z0.jh 5z1.0 5z2.ji 5z3.0 5z4.jj 5z5.0 5z6.jk 5z7.0 5z8.jl 5z9.0 5za.jm 5zb.0 5zc.jn 5zd.0 ",
     "5ze.jo 5zf.0 5zg.jp 5zh.0 5zi.jq 5zj.0 5zk.jr 5zl.0 5zm.js 5zn.0 5zo.jt 5zp.0 5zq.ju 5zr.0 ",
     "5zs.jv 5zt.0 5zu.jw 5zv.0 5zw.jx 5zx.0 5zy.jy 5zz.0 600.jz 601.0 602.k0 603.0 604.k1 605.0 ",
     "606.k2 607.0 608.k3 609.0 60a.k4 60b.0 60c.k5 60d.0 60e.k6 60f.0 60g.k7 60h.0 60i.k8 60j.0 ",
     "60k.k9 60l.0 60m.ka 60n.0 60o.kb 60p.0 60q.kc 60r.0 60s.kd 60t.0 60u.ke 60v.0 60w.kf 60x.0 ",
     "60y.kg 60z.0 610.kh 611.0 612.ki 613.0 614.kj 615.0 616.kk 617.0 618.kl 619.0 61a.km 61b.0 ",
     "61c.kn 61d.0 61e.ko 61f.0 61g.kp 61h.0 61m.kq 61n.jz 61o.0 61q.kr 61r.0 61s.ks 61t.0 61u.kt ",
     "61v.0 61w.ku 61x.0 61y.kv 61z.0 620.kw 621.0 622.kx 623.0 624.ky 625.0 626.kz 627.0 628.l0 629.0 ",
     "62a.l1 62b.0 62c.l2 62d.0 62e.l3 62f.0 62g.l4 62h.0 62i.l5 62j.0 62k.l6 62l.0 62m.l7 62n.0 ",
     "62o.l8 62p.0 62q.l9 62r.0 62s.la 62t.0 62u.lb 62v.0 62w.lc 62x.0 62y.ld 62z.0 630.le 631.0 ",
     "632.lf 633.0 634.lg 635.0 636.lh 637.0 638.li 639.0 63a.lj 63b.0 63c.lk 63d.0 63e.ll 63f.0 ",
     "63g.lm 63h.0 63i.ln 63j.0 63k.lo 63l.0 63m.lp 63n.0 63o.lq 63p.0 63q.lr 63r.0 63s.ls 63t.0 ",
     "63u.lt 63v.0 63w.lu 63x.0 63y.lv 63z.0 640.lw 641.0 642.lx 643.0 644.ly 645.0 646.lz 647.0 ",
     "648.m0 649.0 64a.m1 64b.0 64c.m2 64d.0 64e.m3 64f.0 64o.m4 64p.m5 64q.m6 64r.m7 64s.m8 64t.m9 ",
     "64u.ma 64v.mb 64w.0 652.4 654.mc 655.md 656.me 657.mf 658.mg 659.mh 65a.4 65c.0 65k.mi 65l.mj ",
     "65m.mk 65n.ml 65o.mm 65p.mn 65q.mo 65r.mp 65s.0 660.mq 661.mr 662.ms 663.mt 664.mu 665.mv 666.mw ",
     "667.mx 668.0 66e.4 66g.my 66h.mz 66i.n0 66j.n1 66k.n2 66l.n3 66m.4 66o.0 66w.4 66x.n4 66y.4 ",
     "66z.n5 670.4 671.n6 672.4 673.n7 674.0 67c.n8 67d.n9 67e.na 67f.nb 67g.nc 67h.nd 67i.ne 67j.nf ",
     "67k.0 67l.7c 67m.0 67n.7e 67o.0 67p.7f 67q.0 67r.7g 67s.0 67t.7h 67u.0 67v.7i 67w.0 67x.7j 67y.4 ",
     "680.ng 681.nh 682.ni 683.nj 684.nk 685.nl 686.nm 687.nn 688.ng 689.nh 68a.ni 68b.nj 68c.nk ",
     "68d.nl 68e.nm 68f.nn 68g.no 68h.np 68i.nq 68j.nr 68k.ns 68l.nt 68m.nu 68n.nv 68o.no 68p.np ",
     "68q.nq 68r.nr 68s.ns 68t.nt 68u.nu 68v.nv 68w.nw 68x.nx 68y.ny 68z.nz 690.o0 691.o1 692.o2 ",
     "693.o3 694.nw 695.nx 696.ny 697.nz 698.o0 699.o1 69a.o2 69b.o3 69c.0 69e.o4 69f.o5 69g.o6 69h.4 ",
     "69i.0 69j.o7 69k.o8 69l.o9 69m.oa 69n.7c 69o.o5 69p.ob 69q.73 69r.ob 69s.oc 69t.od 69u.oe 69v.of ",
     "69w.og 69x.4 69y.0 69z.oh 6a0.oi 6a1.7e 6a2.oj 6a3.7f 6a4.of 6a5.ok 6a6.ol 6a7.om 6a8.0 6ab.on ",
     "6ac.4 6ae.0 6ag.oo 6ah.op 6ai.oq 6aj.7g 6ak.4 6al.or 6am.os 6an.ot 6ao.0 6ar.ou 6as.0 6aw.ov ",
     "6ax.ow 6ay.ox 6az.7i 6b0.oy 6b1.oz 6b2.7b 6b3.p0 6b4.4 6b6.p1 6b7.p2 6b8.p3 6b9.4 6ba.0 6bb.p4 ",
     "6bc.p5 6bd.7h 6be.p6 6bf.7j 6bg.p2 6bh.10 6bi.p7 6bj.4 6bk.v 6bv.3 6bw.2 6by.4 6c0.0 6c1.p8 ",
     "6c2.0 6c7.p9 6c8.0 6ck.4 6cn.0 6co.4 6cv.v 6cw.0 6cz.pa 6d0.pb 6d1.0 6d2.pc 6d3.pd 6d4.0 6d8.pe ",
     "6d9.0 6da.pf 6db.0 6dj.pg 6dk.ph 6dl.pi 6dm.0 6dz.pj 6e0.0 6e7.v 6e8.3 6ed.4 6ei.3 6eo.pk 6ep.d ",
     "6eq.4 6es.pl 6et.pm 6eu.pn 6ev.po 6ew.pp 6ex.pq 6ey.pr 6ez.ps 6f0.pt 6f1.pu 6f2.pv 6f3.i 6f4.pk ",
     "6f5.13 6f6.y 6f7.z 6f8.pl 6f9.pm 6fa.pn 6fb.po 6fc.pp 6fd.pq 6fe.pr 6ff.ps 6fg.pt 6fh.pu 6fi.pv ",
     "6fj.4 6fk.5 6fl.9 6fm.j 6fn.s 6fo.42 6fp.c 6fq.f 6fr.g 6fs.h 6ft.i 6fu.k 6fv.n 6fw.o 6fx.4 6g0.0 ",
     "6g8.pw 6g9.0 6gy.4 6hc.0 6i9.4 6io.px 6ip.py 6iq.7 6ir.pz 6is.0 6it.q0 6iu.q1 6iv.43 6iw.0 ",
     "6ix.q2 6iy.b 6iz.c 6j3.2k 6j4.d 6j6.g 6j8.0 6j9.i 6ja.q3 6jb.0 6jd.k 6je.l 6jf.m 6ji.0 6jk.q4 ",
     "6jl.q5 6jm.q6 6jn.0 6jo.u 6jp.0 6jq.85 6jr.0 6js.u 6jt.0 6ju.f 6jv.1c 6jw.6 6jx.7 6jy.0 6jz.9 ",
     "6k1.a 6k2.q7 6k3.h 6k4.j 6k5.q8 6k6.q9 6k7.qa 6k8.qb 6k9.d 6ka.0 6kb.qc 6kc.7x 6kd.7m 6kf.7x ",
     "6kg.qd 6kh.0 6kl.8 6kn.9 6ko.d 6kp.e 6kq.0 6kw.qe 6kx.qf 6ky.qg 6kz.qh 6l0.qi 6l1.qj 6l2.qk ",
     "6l3.ql 6l4.qm 6l5.qn 6l6.qo 6l7.qp 6l8.qq 6l9.qr 6la.qs 6lb.qt 6lc.d 6ld.qu 6le.qv 6lf.qw 6lg.q ",
     "6lh.qx 6li.qy 6lj.qz 6lk.r0 6ll.s 6lm.r1 6ln.r2 6lo.g 6lp.7 6lq.8 6lr.h 6ls.d 6lt.qu 6lu.qv ",
     "6lv.qw 6lw.q 6lx.qx 6ly.qy 6lz.qz 6m0.r0 6m1.s 6m2.r1 6m3.r2 6m4.g 6m5.7 6m6.8 6m7.h 6m8.0 ",
     "6mb.r3 6mc.0 6mh.r4 6mi.0 6mk.4 6mo.0 6r0.r5 6r1.r6 6r2.0 6r3.r7 6r4.r8 6r5.0 6y1.r9 6y2.ra ",
     "6y3.0 756.4 75s.0 763.4 76o.13 76p.y 76q.z 76r.pl 76s.pm 76t.pn 76u.po 76v.pp 76w.pq 76x.rb ",
     "76y.rc 76z.rd 770.re 771.rf 772.rg 773.rh 774.ri 775.rj 776.rk 777.rl 778.rm 779.rn 77a.ro ",
     "77b.rp 77c.rq 77d.rr 77e.rs 77f.rt 77g.ru 77h.rv 77i.rw 77j.rx 77k.ry 77l.rz 77m.s0 77n.s1 ",
     "77o.s2 77p.s3 77q.s4 77r.s5 77s.4 78c.s6 78d.s7 78e.s8 78f.s9 78g.sa 78h.sb 78i.sc 78j.sd 78k.se ",
     "78l.sf 78m.sg 78n.sh 78o.si 78p.sj 78q.sk 78r.sl 78s.sm 78t.sn 78u.so 78v.sp 78w.sq 78x.sr ",
     "78y.ss 78z.st 790.su 791.sv 792.5 793.6 794.7 795.8 796.9 797.a 798.b 799.c 79a.d 79b.e 79c.f ",
     "79d.g 79e.h 79f.i 79g.j 79h.k 79i.l 79j.m 79k.n 79l.o 79m.p 79n.q 79o.r 79p.s 79q.t 79r.u 79s.5 ",
     "79t.6 79u.7 79v.8 79w.9 79x.a 79y.b 79z.c 7a0.d 7a1.e 7a2.f 7a3.g 7a4.h 7a5.i 7a6.j 7a7.k 7a8.l ",
     "7a9.m 7aa.n 7ab.o 7ac.p 7ad.q 7ae.r 7af.s 7ag.t 7ah.u 7ai.pk 7aj.0 8b0.sw 8b1.0 8dw.sx 8dx.sy ",
     "8dy.sz 8dz.0 8gs.t0 8gt.0 8l0.4 8l2.0 8ow.t1 8ox.t2 8oy.t3 8oz.t4 8p0.t5 8p1.t6 8p2.t7 8p3.t8 ",
     "8p4.t9 8p5.ta 8p6.tb 8p7.tc 8p8.td 8p9.te 8pa.tf 8pb.tg 8pc.th 8pd.ti 8pe.tj 8pf.tk 8pg.tl ",
     "8ph.tm 8pi.tn 8pj.to 8pk.tp 8pl.tq 8pm.tr 8pn.ts 8po.tt 8pp.tu 8pq.tv 8pr.tw 8ps.tx 8pt.ty ",
     "8pu.tz 8pv.u0 8pw.u1 8px.u2 8py.u3 8pz.u4 8q0.u5 8q1.u6 8q2.u7 8q3.u8 8q4.u9 8q5.ua 8q6.ub ",
     "8q7.uc 8q8.0 8rk.ud 8rl.0 8rm.ue 8rn.uf 8ro.ug 8rp.0 8rr.uh 8rs.0 8rt.ui 8ru.0 8rv.uj 8rw.0 ",
     "8rx.hv 8ry.id 8rz.hu 8s0.i2 8s1.0 8s2.uk 8s3.0 8s5.ul 8s6.0 8sc.e 8sd.q 8se.um 8sf.un 8sg.uo ",
     "8sh.0 8si.up 8sj.0 8sk.uq 8sl.0 8sm.ur 8sn.0 8so.us 8sp.0 8sq.ut 8sr.0 8ss.uu 8st.0 8su.uv 8sv.0 ",
     "8sw.uw 8sx.0 8sy.ux 8sz.0 8t0.uy 8t1.0 8t2.uz 8t3.0 8t4.v0 8t5.0 8t6.v1 8t7.0 8t8.v2 8t9.0 ",
     "8ta.v3 8tb.0 8tc.v4 8td.0 8te.v5 8tf.0 8tg.v6 8th.0 8ti.v7 8tj.0 8tk.v8 8tl.0 8tm.v9 8tn.0 ",
     "8to.va 8tp.0 8tq.vb 8tr.0 8ts.vc 8tt.0 8tu.vd 8tv.0 8tw.ve 8tx.0 8ty.vf 8tz.0 8u0.vg 8u1.0 ",
     "8u2.vh 8u3.0 8u4.vi 8u5.0 8u6.vj 8u7.0 8u8.vk 8u9.0 8ua.vl 8ub.0 8uc.vm 8ud.0 8ue.vn 8uf.0 ",
     "8ug.vo 8uh.0 8ui.vp 8uj.0 8uk.vq 8ul.0 8um.vr 8un.0 8uo.vs 8up.0 8uq.vt 8ur.0 8us.vu 8ut.0 ",
     "8uu.vv 8uv.0 8uw.vw 8ux.0 8uy.vx 8uz.0 8v0.vy 8v1.0 8v2.vz 8v3.0 8v4.w0 8v5.0 8v6.w1 8v7.0 ",
     "8vf.w2 8vg.0 8vh.w3 8vi.0 8vm.w4 8vn.0 8vo.4 8vt.0 8x2.4 8x3.0 8x4.4 8x9.0 8xa.4 8xc.0 8yw.4 ",
     "8z3.w5 8z4.0 8z5.4 8zj.0 907.4 90g.0 90n.4 90o.0 90v.4 90w.0 913.4 914.0 91b.4 91c.0 91j.4 91k.0 ",
     "91r.4 91s.0 91z.4 920.0 927.4 928.0 95q.4 96o.0 97e.4 97f.0 97j.w6 97k.0 99v.w7 99w.4 9a8.w8 ",
     "9a9.w9 9aa.wa 9ab.wb 9ac.wc 9ad.wd 9ae.we 9af.wf 9ag.wg 9ah.wh 9ai.wi 9aj.wj 9ak.wk 9al.wl ",
     "9am.wm 9an.wn 9ao.wo 9ap.wp 9aq.wq 9ar.wr 9as.ws 9at.wt 9au.wu 9av.wv 9aw.ww 9ax.wx 9ay.wy ",
     "9az.wz 9b0.x0 9b1.x1 9b2.x2 9b3.x3 9b4.x4 9b5.x5 9b6.x6 9b7.x7 9b8.x8 9b9.x9 9ba.xa 9bb.xb ",
     "9bc.xc 9bd.xd 9be.xe 9bf.xf 9bg.xg 9bh.xh 9bi.xi 9bj.xj 9bk.xk 9bl.xl 9bm.xm 9bn.xn 9bo.xo ",
     "9bp.xp 9bq.xq 9br.xr 9bs.xs 9bt.xt 9bu.xu 9bv.xv 9bw.xw 9bx.xx 9by.xy 9bz.xz 9c0.y0 9c1.y1 ",
     "9c2.y2 9c3.y3 9c4.y4 9c5.y5 9c6.y6 9c7.y7 9c8.y8 9c9.y9 9ca.ya 9cb.yb 9cc.yc 9cd.yd 9ce.ye ",
     "9cf.yf 9cg.yg 9ch.yh 9ci.yi 9cj.yj 9ck.yk 9cl.yl 9cm.ym 9cn.yn 9co.yo 9cp.yp 9cq.yq 9cr.yr ",
     "9cs.ys 9ct.yt 9cu.yu 9cv.yv 9cw.yw 9cx.yx 9cy.yy 9cz.yz 9d0.z0 9d1.z1 9d2.z2 9d3.z3 9d4.z4 ",
     "9d5.z5 9d6.z6 9d7.z7 9d8.z8 9d9.z9 9da.za 9db.zb 9dc.zc 9dd.zd 9de.ze 9df.zf 9dg.zg 9dh.zh ",
     "9di.zi 9dj.zj 9dk.zk 9dl.zl 9dm.zm 9dn.zn 9do.zo 9dp.zp 9dq.zq 9dr.zr 9ds.zs 9dt.zt 9du.zu ",
     "9dv.zv 9dw.zw 9dx.zx 9dy.zy 9dz.zz 9e0.100 9e1.101 9e2.102 9e3.103 9e4.104 9e5.105 9e6.106 ",
     "9e7.107 9e8.108 9e9.109 9ea.10a 9eb.10b 9ec.10c 9ed.10d 9ee.10e 9ef.10f 9eg.10g 9eh.10h 9ei.10i ",
     "9ej.10j 9ek.10k 9el.10l 9em.10m 9en.10n 9eo.10o 9ep.10p 9eq.10q 9er.10r 9es.10s 9et.10t 9eu.10u ",
     "9ev.10v 9ew.10w 9ex.10x 9ey.10y 9ez.10z 9f0.110 9f1.111 9f2.112 9f3.113 9f4.114 9f5.115 9f6.116 ",
     "9f7.117 9f8.118 9f9.119 9fa.11a 9fb.11b 9fc.11c 9fd.11d 9fe.11e 9ff.11f 9fg.11g 9fh.11h 9fi.11i ",
     "9fj.11j 9fk.11k 9fl.11l 9fm.11m 9fn.11n 9fo.11o 9fp.11p 9fq.11q 9fr.11r 9fs.11s 9ft.11t 9fu.11u ",
     "9fv.11v 9fw.11w 9fx.11x 9fy.11y 9fz.11z 9g0.120 9g1.121 9g2.122 9g3.123 9g4.124 9g5.125 9g6.4 ",
     "9hc.v 9hd.0 9he.126 9hf.0 9iu.127 9iv.0 9iw.wv 9ix.128 9iy.129 9iz.0 9j4.4 9j5.0 9lj.4 9ll.0 ",
     "9ln.12a 9lo.12b 9lp.0 9lr.12c 9ls.0 9of.12d 9og.4 9ol.0 9ps.4 9pt.12e 9pu.12f 9pv.12g 9pw.12h ",
     "9px.12i 9py.12j 9pz.12k 9q0.12l 9q1.12m 9q2.12n 9q3.12o 9q4.12p 9q5.12q 9q6.12r 9q7.12s 9q8.12t ",
     "9q9.12u 9qa.12v 9qb.12w 9qc.12x 9qd.12y 9qe.12z 9qf.130 9qg.131 9qh.132 9qi.133 9qj.134 9qk.135 ",
     "9ql.136 9qm.137 9qn.138 9qo.139 9qp.13a 9qq.13b 9qr.13c 9qs.13d 9qt.13e 9qu.13f 9qv.13g 9qw.13h ",
     "9qx.13i 9qy.13j 9qz.13k 9r0.13l 9r1.13m 9r2.13n 9r3.13o 9r4.13p 9r5.13q 9r6.13r 9r7.13s 9r8.3 ",
     "9r9.13t 9ra.13u 9rb.13v 9rc.13w 9rd.13x 9re.13y 9rf.13z 9rg.140 9rh.141 9ri.142 9rj.143 9rk.144 ",
     "9rl.145 9rm.146 9rn.147 9ro.148 9rp.149 9rq.14a 9rr.14b 9rs.14c 9rt.14d 9ru.14e 9rv.14f 9rw.14g ",
     "9rx.14h 9ry.14i 9rz.14j 9s0.14k 9s1.14l 9s2.14m 9s3.14n 9s4.14o 9s5.14p 9s6.14q 9s7.14r 9s8.14s ",
     "9s9.14t 9sa.14u 9sb.14v 9sc.14w 9sd.14x 9se.14y 9sf.4 9sg.0 9si.w8 9sj.we 9sk.14z 9sl.150 ",
     "9sm.151 9sn.152 9so.153 9sp.154 9sq.wc 9sr.155 9ss.156 9st.157 9su.158 9sv.wg 9sw.0 9uu.4 9v4.0 ",
     "9vk.159 9vl.15a 9vm.15b 9vn.15c 9vo.15d 9vp.15e 9vq.15f 9vr.15g 9vs.15h 9vt.15i 9vu.15j 9vv.15k ",
     "9vw.15l 9vx.15m 9vy.15n 9vz.15o 9w0.15p 9w1.15q 9w2.15r 9w3.15s 9w4.15t 9w5.15u 9w6.15v 9w7.15w ",
     "9w8.15x 9w9.15y 9wa.15z 9wb.160 9wc.161 9wd.162 9we.163 9wf.4 9wg.164 9wh.165 9wi.166 9wj.167 ",
     "9wk.168 9wl.169 9wm.16a 9wn.16b 9wo.16c 9wp.16d 9wq.16e 9wr.16f 9ws.16g 9wt.16h 9wu.16i 9wv.16j ",
     "9ww.16k 9wx.16l 9wy.16m 9wz.16n 9x0.16o 9x1.16p 9x2.16q 9x3.16r 9x4.16s 9x5.16t 9x6.16u 9x7.16v ",
     "9x8.16w 9x9.16x 9xa.16y 9xb.16z 9xc.170 9xd.171 9xe.172 9xf.173 9xg.174 9xh.175 9xi.y2 9xj.176 ",
     "9xk.0 9xs.177 9xt.178 9xu.179 9xv.17a 9xw.17b 9xx.17c 9xy.17d 9xz.17e 9y0.17f 9y1.17g 9y2.17h ",
     "9y3.17i 9y4.17j 9y5.17k 9y6.17l 9y7.17m 9y8.12e 9y9.12h 9ya.12k 9yb.12m 9yc.12u 9yd.12v 9ye.12y ",
     "9yf.130 9yg.131 9yh.133 9yi.134 9yj.135 9yk.136 9yl.137 9ym.17n 9yn.17o 9yo.17p 9yp.17q 9yq.17r ",
     "9yr.17s 9ys.17t 9yt.17u 9yu.17v 9yv.17w 9yw.17x 9yx.17y 9yy.17z 9yz.180 9z0.181 9z1.182 9z2.183 ",
     "9z3.0 9z4.w8 9z5.we 9z6.14z 9z7.150 9z8.184 9z9.185 9za.186 9zb.wj 9zc.187 9zd.wv 9ze.y9 9zf.yl ",
     "9zg.yk 9zh.ya 9zi.10u 9zj.x3 9zk.y7 9zl.188 9zm.189 9zn.18a 9zo.18b 9zp.18c 9zq.18d 9zr.18e ",
     "9zs.18f 9zt.18g 9zu.18h 9zv.x9 9zw.18i 9zx.18j 9zy.18k 9zz.18l a00.18m a01.18n a02.18o a03.18p ",
     "a04.151 a05.152 a06.153 a07.18q a08.18r a09.18s a0a.18t a0b.18u a0c.18v a0d.18w a0e.18x a0f.18y ",
     "a0g.18z a0h.190 a0i.191 a0j.192 a0k.193 a0l.194 a0m.195 a0n.196 a0o.197 a0p.198 a0q.199 a0r.19a ",
     "a0s.19b a0t.19c a0u.19d a0v.19e a0w.19f a0x.19g a0y.19h a0z.19i a10.19j a11.19k a12.19l a13.19m ",
     "a14.19n a15.19o a16.19p a17.19q a18.19r a19.19s a1a.19t a1b.19u a1c.19v a1d.19w a1e.19x a1f.19y ",
     "a1g.19z a1h.1a0 a1i.1a1 a1j.1a2 a1k.1a3 a1l.1a4 a1m.1a5 a1n.1a6 a1o.1a7 a1p.1a8 a1q.1a9 a1r.1aa ",
     "a1s.1ab a1t.1ac a1u.1ad a1v.1ae a1w.1af a1x.1ag a1y.1ah a1z.1ai a20.1aj a21.1ak a22.1al a23.1am ",
     "a24.1an a25.1ao a26.1ap a27.1aq a28.1ar a29.1as a2a.1at a2b.1au a2c.1av a2d.1aw a2e.1ax a2f.1ay ",
     "a2g.1az a2h.1b0 a2i.1b1 a2j.1b2 a2k.1b3 a2l.1b4 a2m.1b5 a2n.1b6 a2o.1b7 a2p.1b8 a2q.1b9 a2r.1ba ",
     "a2s.1bb a2t.1bc a2u.1bd a2v.1be a2w.1bf a2x.1bg a2y.1bh a2z.1bi a30.1bj a31.1bk a32.1bl a33.1bm ",
     "a34.1bn a35.1bo a36.1bp a37.1bq a38.1br a39.1bs a3a.1bt a3b.1bu a3c.1bv a3d.1bw a3e.1bx a3f.1by ",
     "a3g.1bz a3h.1c0 a3i.1c1 a3j.1c2 a3k.1c3 a3l.1c4 a3m.1c5 a3n.1c6 a3o.1c7 a3p.1c8 a3q.1c9 a3r.1ca ",
     "a3s.1cb a3t.1cc a3u.1cd a3v.1ce a3w.1cf a3x.1cg a3y.1ch a3z.1ci a40.1cj a41.1ck a42.1cl a43.1cm ",
     "a44.1cn a45.1co a46.1cp a47.1cq a48.1cr a49.1cs a4a.1ct a4b.1cu a4c.1cv a4d.1cw a4e.1cx a4f.1cy ",
     "a4g.1cz a4h.1d0 a4i.1d1 a4j.1d2 a4k.1d3 a4l.1d4 a4m.1d5 a4n.1d6 a4o.1d7 a4p.1d8 a4q.1d9 a4r.1da ",
     "a4s.1db a4t.1dc a4u.1dd a4v.1de a4w.1df a4x.1dg a4y.1dh a4z.1di a50.1dj a51.1dk a52.1dl a53.1dm ",
     "a54.1dn a55.1do a56.1dp a57.1dq a58.1dr a59.1ds a5a.1dt a5b.1du a5c.1dv a5d.1dw a5e.1dx a5f.1dy ",
     "a5g.1dz a5h.1e0 a5i.1e1 a5j.1e2 a5k.1e3 a5l.1e4 a5m.1e5 a5n.1e6 a5o.1e7 a5p.1e8 a5q.1e9 a5r.1ea ",
     "a5s.1eb a5t.1ec a5u.1ed a5v.1ee a5w.1ef a5x.1eg a5y.1eh a5z.1ei a60.1ej a61.1ek a62.1el a63.1em ",
     "a64.1en a65.1eo a66.1ep a67.1eq a68.1er a69.1es a6a.1et a6b.1eu a6c.1ev a6d.1ew a6e.1ex a6f.1ey ",
     "a6g.1ez a6h.1f0 a6i.1f1 a6j.1f2 a6k.1f3 a6l.1f4 a6m.1f5 a6n.1f6 a6o.1f7 a6p.1f8 a6q.1f9 a6r.1fa ",
     "a6s.1fb a6t.1fc a6u.1fd a6v.1fe a6w.1ff a6x.1fg a6y.1fh a6z.1fi a70.1fj a71.1fk a72.1fl a73.1fm ",
     "a74.1fn a75.1fo a76.1fp a77.1fq a78.1fr a79.1fs a7a.1ft a7b.1fu a7c.1fv a7d.1er a7e.1fw a7f.1fx ",
     "a7g.1fy a7h.1fz a7i.1g0 a7j.1g1 a7k.1g2 a7l.1g3 a7m.1g4 a7n.1g5 a7o.1g6 a7p.1g7 a7q.1g8 a7r.1g9 ",
     "a7s.1ga a7t.1g9 a7u.1gb a7v.1gc a7w.1gd a7x.1ge a7y.1gf a7z.1ge a80.1gg a81.1gh a82.4 a83.1gi ",
     "a84.1gj a85.1gk a86.1gl a87.4 a88.1gm a89.1gn a8a.1go a8b.1gp a8c.1gq a8d.1gr a8e.1fl a8f.1gs ",
     "a8g.1gt a8h.1gu a8i.1gv a8j.1gw a8k.1ex a8l.1gx a8m.1gy a8n.1gz a8o.4 a8p.1h0 a8q.1h1 a8r.1h2 ",
     "a8s.1h3 a8t.1h4 a8u.1h5 a8v.1h6 a8w.1h7 a8x.1h8 a8y.1h9 a8z.1ha a90.1hb a91.1hc a92.1hd a93.1he ",
     "a94.1hf a95.1hg a96.1hh a97.1hi a98.1hj a99.1hk a9a.1hl a9b.1hm a9c.1hn a9d.1ho a9e.1hp a9f.1hq ",
     "a9g.1hr a9h.1hs a9i.1ht a9j.1hu a9k.1hv a9l.1hw a9m.1hx a9n.1hy a9o.1hz a9p.1i0 a9q.1i1 a9r.1i2 ",
     "a9s.0 wi5.4 wi8.0 wjr.4 wk0.0 wto.4 wu8.1i3 wu9.0 wua.1i4 wub.0 wuc.1i5 wud.0 wue.1i6 wuf.0 ",
     "wug.1i7 wuh.0 wui.gj wuj.0 wuk.1i8 wul.0 wum.1i9 wun.0 wuo.1ia wup.0 wuq.1ib wur.0 wus.1ic wut.0 ",
     "wuu.1id wuv.0 wuw.1ie wux.0 wuy.1if wuz.0 wv0.1ig wv1.0 wv2.1ih wv3.0 wv4.1ii wv5.0 wv6.1ij ",
     "wv7.0 wv8.1ik wv9.0 wva.1il wvb.0 wvc.1im wvd.0 wve.1in wvf.0 wvg.1io wvh.0 ww0.1ip ww1.0 ",
     "ww2.1iq ww3.0 ww4.1ir ww5.0 ww6.1is ww7.0 ww8.1it ww9.0 wwa.1iu wwb.0 wwc.1iv wwd.0 wwe.1iw ",
     "wwf.0 wwg.1ix wwh.0 wwi.1iy wwj.0 wwk.1iz wwl.0 wwm.1j0 wwn.0 wwo.1j1 wwp.0 wwq.1j2 wwr.0 wws.9w ",
     "wwt.9y wwu.0 wzc.4 wzk.0 x0i.1j3 x0j.0 x0k.1j4 x0l.0 x0m.1j5 x0n.0 x0o.1j6 x0p.0 x0q.1j7 x0r.0 ",
     "x0s.1j8 x0t.0 x0u.1j9 x0v.0 x0y.1ja x0z.0 x10.1jb x11.0 x12.1jc x13.0 x14.1jd x15.0 x16.1je ",
     "x17.0 x18.1jf x19.0 x1a.1jg x1b.0 x1c.1jh x1d.0 x1e.1ji x1f.0 x1g.1jj x1h.0 x1i.1jk x1j.0 ",
     "x1k.1jl x1l.0 x1m.1jm x1n.0 x1o.1jn x1p.0 x1q.1jo x1r.0 x1s.1jp x1t.0 x1u.1jq x1v.0 x1w.1jr ",
     "x1x.0 x1y.1js x1z.0 x20.1jt x21.0 x22.1ju x23.0 x24.1jv x25.0 x26.1jw x27.0 x28.1jx x29.0 ",
     "x2a.1jy x2b.0 x2c.1jz x2d.0 x2e.1k0 x2f.0 x2g.1k1 x2h.0 x2i.1k2 x2j.0 x2k.1k3 x2l.0 x2m.1k4 ",
     "x2n.0 x2o.1k4 x2p.0 x2x.1k5 x2y.0 x2z.1k6 x30.0 x31.1k7 x32.1k8 x33.0 x34.1k9 x35.0 x36.1ka ",
     "x37.0 x38.1kb x39.0 x3a.1kc x3b.0 x3f.1kd x3g.0 x3h.i6 x3i.0 x3k.1ke x3l.0 x3m.1kf x3n.0 x3q.1kg ",
     "x3r.0 x3s.1kh x3t.0 x3u.1ki x3v.0 x3w.1kj x3x.0 x3y.1kk x3z.0 x40.1kl x41.0 x42.1km x43.0 ",
     "x44.1kn x45.0 x46.1ko x47.0 x48.1kp x49.0 x4a.6o x4b.hx x4c.i5 x4d.1kq x4e.i7 x4f.0 x4g.1kr ",
     "x4h.1ks x4i.i9 x4j.1kt x4k.1ku x4l.0 x4m.1kv x4n.0 x4o.1kw x4p.0 x4q.1kx x4r.0 x4s.1ky x4t.0 ",
     "x4u.1kz x4v.0 x4w.1l0 x4x.0 x4y.1l1 x4z.0 x50.1l2 x51.ii x52.1l3 x53.1l4 x54.0 x55.1l5 x56.0 ",
     "x57.1l6 x58.1l7 x59.0 x5a.1l8 x5b.0 x5c.1l9 x5d.0 x5e.1la x5f.0 x5g.1lb x5h.0 x5i.1lc x5j.0 ",
     "x5k.1ld x5l.0 x5m.1le x5n.0 x5o.1lf x5p.4 x69.n x6a.7 x6b.a x6c.l x6d.1lg x6e.0 x6g.2k x6h.36 ",
     "x6i.0 x7x.4 x80.0 x8a.4 x8g.0 xa0.4 xa8.0 xc6.4 xce.0 xcq.4 xcw.0 xg4.4 xgf.0 xh9.4 xhc.0 xji.4 ",
     "xjj.0 xju.4 xjy.0 xkv.4 xkw.0 xmf.4 xmo.0 xn2.4 xn4.0 xne.4 xng.0 xqb.4 xqz.0 xrr.4 xs1.0 xs7.4 ",
     "xs9.0 xsf.4 xsh.0 xsn.4 xsw.0 xt3.4 xt4.0 xtb.4 xtc.0 xuk.1j5 xul.1lh xum.ue xun.1li xuo.0 ",
     "xux.1lj xuy.0 xv0.4 xv4.1lk xv5.1ll xv6.1lm xv7.1ln xv8.1lo xv9.1lp xva.1lq xvb.1lr xvc.1ls ",
     "xvd.1lt xve.1lu xvf.1lv xvg.1lw xvh.1lx xvi.1ly xvj.1lz xvk.1m0 xvl.1m1 xvm.1m2 xvn.1m3 xvo.1m4 ",
     "xvp.1m5 xvq.1m6 xvr.1m7 xvs.1m8 xvt.1m9 xvu.1ma xvv.1mb xvw.1mc xvx.1md xvy.1me xvz.1mf xw0.1mg ",
     "xw1.1mh xw2.1mi xw3.1mj xw4.1mk xw5.1ml xw6.1mm xw7.1mn xw8.1mo xw9.1mp xwa.1mq xwb.1mr xwc.1ms ",
     "xwd.1mt xwe.1mu xwf.1mv xwg.1mw xwh.1mx xwi.1my xwj.1mz xwk.1n0 xwl.1n1 xwm.1n2 xwn.1n3 xwo.1n4 ",
     "xwp.1n5 xwq.1n6 xwr.1n7 xws.1n8 xwt.1n9 xwu.1na xwv.1nb xww.1nc xwx.1nd xwy.1ne xwz.1nf xx0.1ng ",
     "xx1.1nh xx2.1ni xx3.1nj xx4.1nk xx5.1nl xx6.1nm xx7.1nn xx8.1no xx9.1np xxa.1nq xxb.1nr xxc.0 ",
     "xym.4 xyo.0 xyy.4 xz4.0 16lg.4 16ls.0 16mf.4 16mj.0 16nw.4 1d6o.1ns 1d6p.1nt 1d6q.10m 1d6r.1nu ",
     "1d6s.1nv 1d6t.1nw 1d6u.1nx 1d6v.124 1d6x.1ny 1d6y.10u 1d6z.1nz 1d70.1o0 1d71.1o1 1d72.1o2 ",
     "1d73.1o3 1d74.1o4 1d75.1o5 1d76.1o6 1d77.1o7 1d78.1o8 1d79.1o9 1d7a.1oa 1d7b.1ob 1d7c.1oc ",
     "1d7d.1od 1d7e.1oe 1d7f.1of 1d7g.1og 1d7h.1oh 1d7i.1oi 1d7j.1oj 1d7k.1ok 1d7l.1ol 1d7m.1om ",
     "1d7n.1on 1d7o.1oo 1d7p.1op 1d7q.1oq 1d7r.1or 1d7s.1os 1d7t.1ot 1d7u.1ou 1d7v.1ov 1d7w.1ow ",
     "1d7x.1ox 1d7y.1oy 1d7z.1oz 1d80.1p0 1d81.1p1 1d82.1p2 1d83.1p3 1d84.zo 1d85.1p4 1d86.1p5 ",
     "1d87.1p6 1d88.1p7 1d89.1p8 1d8a.1p9 1d8b.1pa 1d8c.1pb 1d8d.1pc 1d8e.1pd 1d8f.1pe 1d8g.11p ",
     "1d8h.1pf 1d8i.1pg 1d8j.1ph 1d8k.1pi 1d8l.1pj 1d8m.1pk 1d8n.1pl 1d8o.1pm 1d8p.1pn 1d8q.1po ",
     "1d8r.1pp 1d8s.1pq 1d8t.1pr 1d8u.1ps 1d8v.1pt 1d8w.1pu 1d8x.1pv 1d8y.1pw 1d8z.1px 1d90.1py ",
     "1d91.1pz 1d92.1q0 1d93.1q1 1d94.1q2 1d95.1q3 1d96.1q4 1d97.1q5 1d98.1o8 1d99.1q6 1d9a.1q7 ",
     "1d9b.1q8 1d9c.1q9 1d9d.1qa 1d9e.1qb 1d9f.1qc 1d9g.1qd 1d9h.1qe 1d9i.1qf 1d9j.1qg 1d9k.1qh ",
     "1d9l.1qi 1d9m.1qj 1d9n.1qk 1d9o.1ql 1d9p.1qm 1d9q.1qn 1d9r.1qo 1d9s.1qp 1d9t.10o 1d9u.1qq ",
     "1d9v.1qr 1d9w.1qs 1d9x.1qt 1d9y.1qu 1d9z.1qv 1da0.1qw 1da1.1qx 1da2.1qy 1da3.1qz 1da4.1r0 ",
     "1da5.1r1 1da6.1r2 1da7.1r3 1da8.1r4 1da9.x9 1daa.1r5 1dab.1r6 1dac.1r7 1dad.1r8 1dae.1r9 ",
     "1daf.1ra 1dag.1rb 1dah.1rc 1dai.wq 1daj.1rd 1dak.1re 1dal.1rf 1dam.1rg 1dan.1rh 1dao.1ri ",
     "1dap.1rj 1daq.1rk 1dar.1rl 1das.1rm 1dat.1rn 1dau.1ro 1dav.1rp 1daw.1rq 1dax.1rr 1day.1rs ",
     "1daz.1rt 1db0.1ru 1db1.1rv 1db2.1rw 1db3.1rx 1db4.1ry 1db5.1qo 1db6.1rz 1db7.1s0 1db8.1s1 ",
     "1db9.1s2 1dba.1s3 1dbb.1s4 1dbc.1s5 1dbd.1s6 1dbe.1q8 1dbf.1s7 1dbg.1s8 1dbh.1s9 1dbi.1sa ",
     "1dbj.1sb 1dbk.1sc 1dbl.1sd 1dbm.1se 1dbn.1sf 1dbo.1sg 1dbp.1sh 1dbq.1si 1dbr.1sj 1dbs.1sk ",
     "1dbt.1sl 1dbu.1sm 1dbv.1sn 1dbw.1so 1dbx.1sp 1dby.1sq 1dbz.1o8 1dc0.1sr 1dc1.1ss 1dc2.1st ",
     "1dc3.1su 1dc4.123 1dc5.1sv 1dc6.1sw 1dc7.1sx 1dc8.1sy 1dc9.1sz 1dca.1t0 1dcb.1t1 1dcc.1t2 ",
     "1dcd.1t3 1dce.1t4 1dcf.1t5 1dcg.1t6 1dch.185 1dci.1t7 1dcj.1t8 1dck.1t9 1dcl.1ta 1dcm.1tb ",
     "1dcn.1tc 1dco.1td 1dcp.1te 1dcq.1tf 1dcr.1qa 1dcs.1tg 1dct.1th 1dcu.1ti 1dcv.1tj 1dcw.1tk ",
     "1dcx.1tl 1dcy.1tm 1dcz.1tn 1dd0.1to 1dd1.1tp 1dd2.1tq 1dd3.1tr 1dd4.1ts 1dd5.10t 1dd6.1tt ",
     "1dd7.1tu 1dd8.1tv 1dd9.1tw 1dda.1tx 1ddb.1ty 1ddc.1tz 1ddd.1u0 1dde.1u1 1ddf.1u2 1ddg.1u3 ",
     "1ddh.1u4 1ddi.1u5 1ddj.zg 1ddk.1u6 1ddl.1u7 1ddm.1u8 1ddn.1u9 1ddo.1ua 1ddp.1ub 1ddq.1uc ",
     "1ddr.1ud 1dds.1ue 1ddt.1uf 1ddu.1ug 1ddv.1uh 1ddw.1ui 1ddx.1uj 1ddy.1uk 1ddz.1ul 1de0.107 ",
     "1de1.1um 1de2.10a 1de3.1un 1de4.1uo 1de5.1up 1de6.0 1de8.1uq 1de9.0 1dea.1ur 1deb.0 1ded.1us ",
     "1dee.1ut 1def.1uu 1deg.1uv 1deh.1uw 1dei.1ux 1dej.1uy 1dek.1uz 1del.1v0 1dem.zn 1den.0 1deo.1v1 ",
     "1dep.0 1deq.1v2 1der.0 1det.1v3 1deu.1v4 1dev.0 1dey.1v5 1dez.1v6 1df0.1v7 1df1.1v8 1df2.1v9 ",
     "1df3.1va 1df4.1vb 1df5.1vc 1df6.1vd 1df7.1ve 1df8.1vf 1df9.1vg 1dfa.1vh 1dfb.1vi 1dfc.1vj ",
     "1dfd.1vk 1dfe.1vl 1dff.1vm 1dfg.xg 1dfh.1vn 1dfi.1vo 1dfj.1vp 1dfk.1vq 1dfl.1vr 1dfm.1vs ",
     "1dfn.1vt 1dfo.1vu 1dfp.1vv 1dfq.1vw 1dfr.1vx 1dfs.1vy 1dft.1vz 1dfu.1w0 1dfv.1w1 1dfw.18a ",
     "1dfx.1w2 1dfy.1w3 1dfz.1w4 1dg0.1w5 1dg1.18e 1dg2.1w6 1dg3.1w7 1dg4.1w8 1dg5.1w9 1dg6.1wa ",
     "1dg7.1ro 1dg8.1wb 1dg9.1wc 1dga.1wd 1dgb.1we 1dgc.1wf 1dgd.1wg 1dgf.1wh 1dgg.1wi 1dgh.1wj ",
     "1dgi.1wk 1dgj.1wl 1dgk.1wm 1dgl.1wn 1dgm.1wo 1dgn.1v3 1dgo.1wp 1dgp.1wq 1dgq.1wr 1dgr.1ws ",
     "1dgs.1wt 1dgt.1wu 1dgu.4 1dgw.1wv 1dgx.1ww 1dgy.1wx 1dgz.1wy 1dh0.1wz 1dh1.1x0 1dh2.1x1 1dh3.1x2 ",
     "1dh4.1vh 1dh5.1x3 1dh6.1x4 1dh7.1x5 1dh8.1uq 1dh9.1x6 1dha.1x7 1dhb.1x8 1dhc.1x9 1dhd.1xa ",
     "1dhe.1xb 1dhf.1xc 1dhg.1xd 1dhh.1xe 1dhi.1xf 1dhj.1xg 1dhk.1xh 1dhl.1vp 1dhm.1xi 1dhn.1vq ",
     "1dho.1xj 1dhp.1xk 1dhq.1xl 1dhr.1xm 1dhs.1xn 1dht.1ur 1dhu.1ot 1dhv.1xo 1dhw.1xp 1dhx.yd ",
     "1dhy.1qp 1dhz.1t0 1di0.1xq 1di1.1xr 1di2.1vx 1di3.1xs 1di4.1vy 1di5.1xt 1di6.1xu 1di7.1xv ",
     "1di8.1ut 1di9.1xw 1dia.1xx 1dib.1xy 1dic.1xz 1did.1y0 1die.1uu 1dif.1y1 1dig.1y2 1dih.1y3 ",
     "1dii.1y4 1dij.1y5 1dik.1y6 1dil.1wa 1dim.1y7 1din.1y8 1dio.1ro 1dip.1y9 1diq.1we 1dir.1ya ",
     "1dis.1yb 1dit.1yc 1diu.1yd 1div.1ye 1diw.1wj 1dix.1yf 1diy.1v2 1diz.1yg 1dj0.1wk 1dj1.1q6 ",
     "1dj2.1yh 1dj3.1wl 1dj4.1yi 1dj5.1wn 1dj6.1yj 1dj7.1yk 1dj8.1yl 1dj9.1ym 1dja.1yn 1djb.1wp ",
     "1djc.1uz 1djd.1yo 1dje.1wq 1djf.1yp 1djg.1wr 1djh.1yq 1dji.124 1djj.1yr 1djk.1ys 1djl.1yt ",
     "1djm.1yu 1djn.1yv 1djo.1yw 1djp.1yx 1djq.1yy 1djr.1yz 1djs.1z0 1djt.1z1 1dju.4 1dkw.1z2 1dkx.1z3 ",
     "1dky.1z4 1dkz.1z5 1dl0.1z6 1dl1.1z7 1dl3.4 1dlf.1z8 1dlg.1z9 1dlh.1za 1dli.1zb 1dlj.1zc 1dlk.4 ",
     "1dlp.1zd 1dlq.0 1dlr.1ze 1dls.1zf 1dlt.q8 1dlu.qb 1dlv.1zg 1dlw.1zh 1dlx.1zi 1dly.1zj 1dlz.1zk ",
     "1dm0.1zl 1dm1.pr 1dm2.1zm 1dm3.1zn 1dm4.1zo 1dm5.1zp 1dm6.1zq 1dm7.1zr 1dm8.1zs 1dm9.1zt ",
     "1dma.1zu 1dmb.1zv 1dmc.1zw 1dmd.1zx 1dme.1zy 1dmf.4 1dmg.1zz 1dmh.200 1dmi.201 1dmj.202 1dmk.203 ",
     "1dml.4 1dmm.204 1dmn.4 1dmo.205 1dmp.206 1dmq.4 1dmr.207 1dms.208 1dmt.4 1dmu.209 1dmv.20a ",
     "1dmw.20b 1dmx.20c 1dmy.20d 1dmz.20e 1dn0.20f 1dn1.20g 1dn2.20h 1dn3.20i 1dn4.20j 1dn6.20k ",
     "1dna.20l 1dne.20m 1dni.20n 1dnm.20o 1dnq.20p 1dnu.20q 1dny.20r 1do2.20s 1do6.20t 1doa.20u ",
     "1doe.20v 1doi.20w 1dok.20x 1dom.20y 1doo.20z 1doq.210 1dos.211 1dou.212 1doy.213 1dp2.214 ",
     "1dp6.215 1dpa.216 1dpc.217 1dpg.218 1dpi.219 1dpm.21a 1dpq.21b 1dps.21c 1dpu.0 1dqr.21d 1dqv.21e ",
     "1dqx.21f 1dqz.21g 1dr1.dz 1dr2.21h 1dr4.21i 1dr6.21j 1dr8.21k 1drc.21l 1dre.21m 1drg.21n ",
     "1dri.21o 1drk.21p 1drm.21q 1dro.21r 1drq.21s 1drt.21t 1drw.21u 1ds0.21v 1ds1.21w 1ds2.21x ",
     "1ds3.21t 1ds4.21y 1ds5.21z 1ds6.220 1ds7.221 1ds8.222 1ds9.223 1dsa.224 1dsb.225 1dsc.226 ",
     "1dsd.227 1dse.228 1dsf.229 1dsg.22a 1dsh.22b 1dsi.22c 1dsj.22d 1dsk.22e 1dsl.22f 1dsm.22g ",
     "1dsn.22h 1dso.22i 1dsp.22j 1dsq.22k 1dsr.22l 1dss.22m 1dst.22n 1dsu.22o 1dsv.22p 1dsw.22q ",
     "1dsx.22r 1dsy.22s 1dsz.22t 1dt0.22u 1dt1.22v 1dt2.22w 1dt3.22x 1dt4.22y 1dt5.22z 1dt6.230 ",
     "1dt7.231 1dt8.232 1dt9.233 1dta.234 1dtb.235 1dtc.236 1dtd.237 1dte.238 1dtf.239 1dtg.23a ",
     "1dth.23b 1dti.23c 1dtj.23d 1dtk.23e 1dtl.23f 1dtm.23g 1dtn.23h 1dto.23i 1dtp.23j 1dtq.23k ",
     "1dtr.23l 1dts.23m 1dtt.23n 1dtu.23o 1dtv.23p 1dtw.23q 1dtx.23r 1dty.23s 1dtz.23t 1du0.23u ",
     "1du1.23v 1du2.23w 1du3.23x 1du4.23y 1du5.23z 1du6.240 1du7.241 1du8.242 1du9.243 1dua.244 ",
     "1dub.245 1duc.246 1dud.247 1due.248 1duf.249 1dug.24a 1duh.24b 1dui.24c 1duj.24d 1duk.24e ",
     "1dul.24f 1dum.24g 1dun.24h 1duo.24i 1dup.24j 1duq.24k 1dur.24l 1dus.24m 1dut.24n 1duu.21x ",
     "1duv.24o 1duw.21t 1dux.21y 1duy.24p 1duz.24q 1dv0.222 1dv1.24r 1dv2.223 1dv3.224 1dv4.24s ",
     "1dv5.24t 1dv6.228 1dv7.24u 1dv8.229 1dv9.22a 1dva.24v 1dvb.24w 1dvc.22c 1dvd.24x 1dve.22d ",
     "1dvf.22e 1dvg.237 1dvh.238 1dvi.23b 1dvj.23c 1dvk.23d 1dvl.23h 1dvm.23i 1dvn.23j 1dvo.23k ",
     "1dvp.23o 1dvq.23p 1dvr.23q 1dvs.24y 1dvt.23u 1dvu.24z 1dvv.250 1dvw.240 1dvx.251 1dvy.241 ",
     "1dvz.242 1dw0.24f 1dw1.252 1dw2.253 1dw3.24a 1dw4.254 1dw5.24b 1dw6.24c 1dw7.21v 1dw8.21w ",
     "1dw9.255 1dwa.21x 1dwb.256 1dwc.21z 1dwd.220 1dwe.221 1dwf.222 1dwg.257 1dwh.225 1dwi.226 ",
     "1dwj.227 1dwk.228 1dwl.258 1dwm.22c 1dwn.22f 1dwo.22g 1dwp.22h 1dwq.22i 1dwr.22j 1dws.22l ",
     "1dwt.22m 1dwu.22n 1dwv.22o 1dww.22p 1dwx.22q 1dwy.259 1dwz.22r 1dx0.22s 1dx1.22t 1dx2.22u ",
     "1dx3.22v 1dx4.22w 1dx5.22y 1dx6.22z 1dx7.230 1dx8.231 1dx9.232 1dxa.233 1dxb.234 1dxc.235 ",
     "1dxd.236 1dxe.239 1dxf.23a 1dxg.23e 1dxh.23f 1dxi.23g 1dxj.23h 1dxk.23i 1dxl.23l 1dxm.23m ",
     "1dxn.23n 1dxo.23o 1dxp.25a 1dxq.23r 1dxr.23s 1dxs.23t 1dxt.23u 1dxu.23x 1dxv.23y 1dxw.23z ",
     "1dxx.240 1dxy.25b 1dxz.243 1dy0.244 1dy1.25c 1dy2.247 1dy3.248 1dy4.249 1dy5.24a 1dy6.25d ",
     "1dy7.21x 1dy8.256 1dy9.222 1dya.257 1dyb.228 1dyc.258 1dyd.22c 1dye.25e 1dyf.22p 1dyg.25f ",
     "1dyh.25g 1dyi.25h 1dyj.23h 1dyk.23i 1dyl.23o 1dym.240 1dyn.25b 1dyo.24a 1dyp.25d 1dyq.25i ",
     "1dyr.25j 1dys.25k 1dyt.25l 1dyu.25m 1dyv.25n 1dyw.25o 1dyx.25p 1dyy.25q 1dyz.25r 1dz0.25s ",
     "1dz1.25t 1dz2.25u 1dz3.25v 1dz4.25w 1dz5.25x 1dz6.25y 1dz7.25z 1dz8.260 1dz9.261 1dza.262 ",
     "1dzb.263 1dzc.264 1dzd.265 1dze.266 1dzf.267 1dzg.25g 1dzh.268 1dzi.269 1dzj.26a 1dzk.26b ",
     "1dzl.25l 1dzm.25m 1dzn.25n 1dzo.25o 1dzp.25p 1dzq.25q 1dzr.25r 1dzs.25s 1dzt.25t 1dzu.25u ",
     "1dzv.25v 1dzw.25w 1dzx.25x 1dzy.25y 1dzz.25z 1e00.260 1e01.261 1e02.262 1e03.263 1e04.264 ",
     "1e05.265 1e06.266 1e07.267 1e08.25g 1e09.268 1e0a.269 1e0b.26a 1e0c.26b 1e0d.265 1e0e.266 ",
     "1e0f.267 1e0g.25g 1e0h.25f 1e0i.25h 1e0j.22x 1e0k.22m 1e0l.22n 1e0m.22o 1e0n.265 1e0o.266 ",
     "1e0p.267 1e0q.22x 1e0r.22y 1e0s.26c 1e0u.0 1e1c.26d 1e1d.26e 1e1f.26f 1e1g.26g 1e1h.26h 1e1i.26i ",
     "1e1j.26j 1e1k.26k 1e1m.26l 1e1n.26m 1e1o.26n 1e1p.26o 1e1q.26p 1e1r.26q 1e1t.26r 1e1u.26s ",
     "1e1w.26t 1e1y.26u 1e1z.26v 1e21.26w 1e22.26x 1e24.26y 1e26.26z 1e27.270 1e29.271 1e2b.272 ",
     "1e2c.273 1e2d.274 1e2e.275 1e2g.276 1e2h.277 1e2i.278 1e2j.279 1e2k.27a 1e2m.27b 1e2n.27c ",
     "1e2o.27d 1e2p.27e 1e2q.27f 1e2r.27g 1e2t.27h 1e2v.27i 1e2x.27j 1e2y.27k 1e2z.27l 1e30.27m ",
     "1e31.27n 1e32.27o 1e33.27p 1e34.0 1e36.27q 1e37.27r 1e38.27s 1e39.27t 1e3a.27u 1e3b.27v 1e3d.27w ",
     "1e3e.27x 1e3f.27y 1e3g.27z 1e3i.280 1e3j.281 1e3k.282 1e3l.283 1e3m.284 1e3n.285 1e3o.286 ",
     "1e3p.287 1e3q.288 1e3r.289 1e3s.28a 1e3t.28b 1e3u.28c 1e3v.28d 1e3w.28e 1e3x.28f 1e3y.28g ",
     "1e3z.28h 1e40.28i 1e41.28j 1e42.28k 1e43.28l 1e44.27b 1e45.27d 1e46.28m 1e47.28n 1e48.28o ",
     "1e49.28p 1e4a.28q 1e4b.28r 1e4c.28q 1e4d.28o 1e4e.28s 1e4f.28t 1e4g.28u 1e4h.28v 1e4i.28w ",
     "1e4j.28r 1e4k.274 1e4l.26u 1e4m.28x 1e4n.28y 1e4o.0 1e4w.4 1e5s.28z 1e5t.290 1e5u.291 1e5v.292 ",
     "1e5w.293 1e5x.294 1e5y.295 1e5z.296 1e60.297 1e61.298 1e62.299 1e63.29a 1e64.29b 1e65.0 1e68.3 ",
     "1e6o.29c 1e6p.29d 1e6q.4 1e6r.29e 1e6s.79 1e6t.29f 1e6u.29g 1e6v.29h 1e6w.29i 1e6x.4 1e74.0 ",
     "1e7k.4 1e7l.29j 1e7m.29k 1e7n.29l 1e7p.pu 1e7q.pv 1e7r.29m 1e7s.29n 1e7t.29o 1e7u.29p 1e7v.29q ",
     "1e7w.29r 1e7x.29s 1e7y.29t 1e7z.r9 1e80.ra 1e81.29u 1e82.29v 1e83.29w 1e84.29x 1e85.0 1e87.29y ",
     "1e88.29z 1e89.pf 1e8d.29l 1e8g.29c 1e8h.29d 1e8i.4 1e8k.79 1e8l.29e 1e8m.29g 1e8n.29f 1e8o.29j ",
     "1e8p.pu 1e8q.pv 1e8r.29m 1e8s.29n 1e8t.29o 1e8u.29p 1e8v.2a0 1e8w.2a1 1e8x.2a2 1e8y.pr 1e8z.2a3 ",
     "1e90.2a4 1e91.2a5 1e92.pt 1e93.4 1e94.2a6 1e95.2a7 1e96.2a8 1e97.2a9 1e98.4 1e9c.2aa 1e9d.2ab ",
     "1e9e.2ac 1e9f.0 1e9g.2ad 1e9h.4 1e9i.2ae 1e9j.2af 1e9k.2ag 1e9l.2ah 1e9m.2ai 1e9n.2aj 1e9o.2ak ",
     "1e9p.2al 1e9q.2am 1e9r.2an 1e9s.2ao 1e9t.2ap 1e9v.2aq 1e9x.2ar 1e9z.2as 1ea1.2at 1ea5.2au ",
     "1ea7.2av 1eab.2aw 1ead.2ax 1eah.2ay 1eal.2az 1eap.2b0 1eat.2b1 1eax.2b2 1eaz.2b3 1eb1.2b4 ",
     "1eb3.2b5 1eb5.2b6 1eb9.2b7 1ebd.2b8 1ebh.2b9 1ebl.2ba 1ebp.2bb 1ebt.2bc 1ebx.2bd 1ec1.2be ",
     "1ec5.2bf 1ec9.2bg 1ecd.2bh 1ech.2bi 1ecl.2bj 1ecp.2bk 1ect.2bl 1ecv.21l 1ecx.2bm 1ed1.2bn ",
     "1ed3.2bo 1ed5.2bp 1ed7.2bq 1ed9.4 1edb.3 1edc.4 1edd.29f 1ede.2br 1edf.2a0 1edg.2a7 1edh.2a8 ",
     "1edi.2a1 1edj.2bs 1edk.pu 1edl.pv 1edm.2a2 1edn.pr 1edo.29c 1edp.2a3 1edq.126 1edr.2bt 1eds.pk ",
     "1edt.13 1edu.y 1edv.z 1edw.pl 1edx.pm 1edy.pn 1edz.po 1ee0.pp 1ee1.pq 1ee2.29e 1ee3.79 1ee4.2a4 ",
     "1ee5.pt 1ee6.2a5 1ee7.29g 1ee8.2a9 1ee9.5 1eea.6 1eeb.7 1eec.8 1eed.9 1eee.a 1eef.b 1eeg.c ",
     "1eeh.d 1eei.e 1eej.f 1eek.g 1eel.h 1eem.i 1een.j 1eeo.k 1eep.l 1eeq.m 1eer.n 1ees.o 1eet.p ",
     "1eeu.q 1eev.r 1eew.s 1eex.t 1eey.u 1eez.29y 1ef0.2a6 1ef1.29z 1ef2.2bu 1ef3.29l 1ef4.p0 1ef5.5 ",
     "1ef6.6 1ef7.7 1ef8.8 1ef9.9 1efa.a 1efb.b 1efc.c 1efd.d 1efe.e 1eff.f 1efg.g 1efh.h 1efi.i ",
     "1efj.j 1efk.k 1efl.l 1efm.m 1efn.n 1efo.o 1efp.p 1efq.q 1efr.r 1efs.s 1eft.t 1efu.u 1efv.29m ",
     "1efw.2bv 1efx.29n 1efy.2bw 1efz.2bx 1eg0.2by 1eg1.126 1eg2.29u 1eg3.29v 1eg4.29d 1eg5.2bz ",
     "1eg6.1b5 1eg7.2c0 1eg8.2c1 1eg9.2c2 1ega.2c3 1egb.2c4 1egc.2c5 1egd.2c6 1ege.2c7 1egf.2c8 ",
     "1egg.2c9 1egh.19v 1egi.19w 1egj.19x 1egk.19y 1egl.19z 1egm.1a0 1egn.1a1 1ego.1a2 1egp.1a3 ",
     "1egq.1a4 1egr.1a5 1egs.1a6 1egt.1a7 1egu.1a8 1egv.1a9 1egw.1aa 1egx.1ab 1egy.1ac 1egz.1ad ",
     "1eh0.1ae 1eh1.1af 1eh2.1ag 1eh3.1ah 1eh4.1ai 1eh5.1aj 1eh6.1ak 1eh7.1al 1eh8.1am 1eh9.1an ",
     "1eha.1ao 1ehb.1ap 1ehc.1aq 1ehd.1ar 1ehe.1as 1ehf.1at 1ehg.1au 1ehh.1av 1ehi.1aw 1ehj.1ax ",
     "1ehk.1ay 1ehl.1az 1ehm.1b0 1ehn.1b1 1eho.1b2 1ehp.2ca 1ehq.2cb 1ehr.2cc 1ehs.3 1eht.12e 1ehu.12f ",
     "1ehv.12g 1ehw.12h 1ehx.12i 1ehy.12j 1ehz.12k 1ei0.12l 1ei1.12m 1ei2.12n 1ei3.12o 1ei4.12p ",
     "1ei5.12q 1ei6.12r 1ei7.12s 1ei8.12t 1ei9.12u 1eia.12v 1eib.12w 1eic.12x 1eid.12y 1eie.12z ",
     "1eif.130 1eig.131 1eih.132 1eii.133 1eij.134 1eik.135 1eil.136 1eim.137 1ein.4 1eiq.138 1eir.139 ",
     "1eis.13a 1eit.13b 1eiu.13c 1eiv.13d 1eiw.4 1eiy.13e 1eiz.13f 1ej0.13g 1ej1.13h 1ej2.13i 1ej3.13j ",
     "1ej4.4 1ej6.13k 1ej7.13l 1ej8.13m 1ej9.13n 1eja.13o 1ejb.13p 1ejc.4 1eje.13q 1ejf.13r 1ejg.13s ",
     "1ejh.4 1ejk.2cd 1ejl.2ce 1ejm.2cf 1ejn.x 1ejo.2cg 1ejp.2ch 1ejq.2ci 1ejr.4 1ejs.2cj 1ejt.2ck ",
     "1eju.2cl 1ejv.2cm 1ejw.2cn 1ejx.2co 1ejy.2cp 1ejz.4 1ekg.0 1eks.4 1ekt.0 1elj.4 1elk.0 1em3.4 ",
     "1em4.0 1em6.4 1em7.0 1emm.4 1emo.0 1en2.4 1eo0.0 1erf.4 1erk.0 1ern.4 1err.0 1et0.4 1et3.0 ",
     "1evj.4 1evk.0 1evx.4 1ew0.0 1ew1.4 1exc.0 1eym.4 1f28.0 1f31.4 1f34.0 1f4h.4 1f4w.0 1f5o.4 ",
     "1f5s.0 1f6s.4 1f71.0 1f7v.4 1f80.0 1f97.4 1f9c.0 1fa6.4 1fa7.0 1fb8.4 1fbc.0 1fbq.4 1fcw.2cq ",
     "1fcx.2cr 1fcy.2cs 1fcz.2ct 1fd0.2cu 1fd1.2cv 1fd2.2cw 1fd3.2cx 1fd4.2cy 1fd5.2cz 1fd6.2d0 ",
     "1fd7.2d1 1fd8.2d2 1fd9.2d3 1fda.2d4 1fdb.2d5 1fdc.2d6 1fdd.2d7 1fde.2d8 1fdf.2d9 1fdg.2da ",
     "1fdh.2db 1fdi.2dc 1fdj.2dd 1fdk.2de 1fdl.2df 1fdm.2dg 1fdn.2dh 1fdo.2di 1fdp.2dj 1fdq.2dk ",
     "1fdr.2dl 1fds.2dm 1fdt.2dn 1fdu.2do 1fdv.2dp 1fdw.2dq 1fdx.2dr 1fdy.2ds 1fdz.2dt 1fe0.0 1fha.4 ",
     "1fhc.0 1fhm.4 1fhs.2du 1fht.2dv 1fhu.2dw 1fhv.2dx 1fhw.2dy 1fhx.2dz 1fhy.2e0 1fhz.2e1 1fi0.2e2 ",
     "1fi1.2e3 1fi2.2e4 1fi3.2e5 1fi4.2e6 1fi5.2e7 1fi6.2e8 1fi7.2e9 1fi8.2ea 1fi9.2eb 1fia.2ec ",
     "1fib.2ed 1fic.2ee 1fid.2ef 1fie.2eg 1fif.2eh 1fig.2ei 1fih.2ej 1fii.2ek 1fij.2el 1fik.2em ",
     "1fil.2en 1fim.2eo 1fin.2ep 1fio.2eq 1fip.2er 1fiq.2es 1fir.2et 1fis.4 1fiw.0 1fjw.4 1fk0.0 ",
     "1fl4.4 1flc.0 1fms.4 1fn3.0 1fn4.2eu 1fn5.2ev 1fn6.2ew 1fn7.2ex 1fn8.2ey 1fn9.2ez 1fna.2f0 ",
     "1fnb.2f1 1fnc.2f2 1fnd.2f3 1fne.2f4 1fnf.4 1fng.2f5 1fnh.2f6 1fni.2f7 1fnj.2f8 1fnk.2f9 1fnl.2fa ",
     "1fnm.2fb 1fnn.2fc 1fno.2fd 1fnp.2fe 1fnq.2ff 1fnr.2fg 1fns.2fh 1fnt.2fi 1fnu.2fj 1fnv.4 1fnw.2fk ",
     "1fnx.2fl 1fny.2fm 1fnz.2fn 1fo0.2fo 1fo1.2fp 1fo2.2fq 1fo3.4 1fo4.2fr 1fo5.2fs 1fo6.4 1fo7.0 ",
     "1foi.4 1foj.0 1foy.4 1foz.0 1fp6.4 1fp7.0 1fp9.4 1fpc.0 1fqs.4 1fr4.0 1fzr.4 1g00.0 1g0m.4 ",
     "1g0w.0 1g14.4 1g1s.0 1g1t.2ft 1g1u.2fu 1g1v.1d 1g1w.2fv 1g1x.3t 1g1y.4 1g1z.2fw 1g20.2fx ",
     "1g21.2fy 1g22.2fz 1g23.3y 1g24.3z 1g25.2g0 1g26.2g1 1g27.2g2 1g28.2g3 1g29.1l6 1g2a.2g4 1g2b.45 ",
     "1g2c.2g5 1g2d.2k 1g2e.2g6 1g2f.2g7 1g2g.2g8 1g2h.2g9 1g2i.2ga 1g2j.1kq 1g2k.2gb 1g2l.2gc ",
     "1g2m.2gd 1g2n.2ge 1g2o.2gf 1g2p.2gg 1g2q.1u 1g2r.2gh 1g2s.2gi 1g2t.l 1g2u.2gj 1g2v.2gk 1g2w.ug ",
     "1g2x.2gl 1g2y.4g 1g2z.2gm 1g30.2gn 1g31.2go 1g32.2gp 1g33.4k 1g34.2gq 1g35.4 1g36.2gr 1g37.2gs ",
     "1g38.2gt 1g39.2gu 1g3a.2gv 1g3b.2gw 1g3c.2gx 1g3d.2gy 1g3e.2gz 1g3f.4 1g5c.0 1g5i.4 1g5k.0 ",
     "1g5l.4 1g5m.0 1g6u.4 1g6v.0 1g6x.4 1g70.0 1g71.4 1g73.0 1g7q.4 1g7r.0 1g9r.4 1g9z.0 1ga8.4 ",
     "1gbk.0 1gc3.4 1gc4.0 1gc6.4 1gcb.0 1gd8.4 1gdb.0 1ge2.4 1ge7.0 1gey.4 1gg0.0 1ghk.4 1gho.0 ",
     "1gi8.4 1gia.0 1gjo.4 1gjp.0 1gjr.4 1gjw.0 1gk4.4 1gk5.0 1gk8.4 1gk9.0 1gl2.4 1gl4.0 1gl7.4 ",
     "1glb.0 1gll.4 1gls.0 1gm1.4 1gm8.0 1go0.4 1gow.0 1gpz.4 1gq3.0 1gqf.4 1gqo.0 1gs6.4 1gs9.0 ",
     "1gt2.4 1gt4.0 1gtv.4 1gu0.0 1guq.4 1gux.0 1gv1.4 1gvd.0 1gvk.4 1gxs.0 1gzt.4 1h1c.2h0 1h1d.2h1 ",
     "1h1e.2h2 1h1f.2h3 1h1g.2h4 1h1h.2h5 1h1i.2h6 1h1j.2h7 1h1k.2h8 1h1l.2h9 1h1m.2ha 1h1n.2hb ",
     "1h1o.2hc 1h1p.2hd 1h1q.2he 1h1r.2hf 1h1s.2hg 1h1t.2hh 1h1u.2hi 1h1v.2hj 1h1w.2hk 1h1x.2hl ",
     "1h1y.2hm 1h1z.2hn 1h20.2ho 1h21.2hp 1h22.2hq 1h23.2hr 1h24.2hs 1h25.2ht 1h26.2hu 1h27.2hv ",
     "1h28.2hw 1h29.2hx 1h2a.2hy 1h2b.2hz 1h2c.2i0 1h2d.2i1 1h2e.2i2 1h2f.2i3 1h2g.2i4 1h2h.2i5 ",
     "1h2i.2i6 1h2j.2i7 1h2k.2i8 1h2l.2i9 1h2m.2ia 1h2n.2ib 1h2o.2ic 1h2p.2id 1h2q.2ie 1h2r.4 1h34.0 ",
     "1h4j.4 1h4q.0 1h60.4 1h68.0 1h6i.4 1h6o.0 1h74.2if 1h75.2ig 1h76.2ih 1h77.2ii 1h78.2ij 1h79.2ik ",
     "1h7a.2il 1h7b.2im 1h7c.2in 1h7d.2io 1h7e.2ip 1h7f.2iq 1h7g.2ir 1h7h.2is 1h7i.2it 1h7j.2iu ",
     "1h7k.2iv 1h7l.2iw 1h7m.2ix 1h7n.2iy 1h7o.2iz 1h7p.2j0 1h7q.4 1h7t.0 1h8m.4 1h8u.0 1h8w.4 1heo.0 ",
     "1hfj.4 1hfk.0 1hgq.4 1hgr.0 1hgu.4 1hgw.0 1hgy.4 1hhe.0 1hhk.4 1hhs.0 1hi1.4 1hiy.0 1hk8.4 ",
     "1hkg.0 1hlm.4 1hm8.0 1hmy.4 1ho0.0 1hos.4 1hpc.0 1hpz.4 1hq8.0 1hse.4 1hsi.0 1hti.4 1htr.0 ",
     "1hvh.4 1hvi.0 1hvn.4 1hw0.0 1hwp.4 1hww.0 1hx6.4 1hxc.0 1hyt.4 1hyu.0 1hzc.4 1hzk.0 1i0n.4 ",
     "1i0w.0 1i3k.4 1i3l.0 1i45.4 1i4g.0 1i4y.4 1i4z.0 1i6a.4 1i80.0 1i87.4 1i88.0 1i89.4 1i8a.0 ",
     "1i8e.4 1i8f.0 1i8u.4 1i8v.0 1i96.4 1i9c.0 1iaz.4 1ib4.0 1ibe.4 1ibk.0 1ibo.4 1ibp.0 1ibx.4 ",
     "1ibz.0 1ic1.4 1ic3.0 1icp.4 1icq.0 1icx.4 1icy.0 1id0.4 1id1.0 1id6.4 1id7.0 1idh.4 1idj.0 ",
     "1idl.4 1idn.0 1idq.4 1ids.0 1idt.4 1idz.0 1ie0.4 1ie5.0 1iec.4 1iee.0 1iel.4 1ieo.0 1iet.4 ",
     "1if4.0 1ife.4 1iff.0 1ifg.4 1ifi.0 1ifj.4 1ifk.0 1igm.4 1ign.0 1igx.4 1igy.0 1igz.4 1ih1.0 ",
     "1ih2.4 1ih3.0 1ih7.4 1ih8.0 1ihi.4 1ihj.0 1ihl.4 1iht.0 1ihv.4 1iio.0 1il8.4 1il9.0 1ile.4 ",
     "1im8.0 1io8.4 1iog.0 1ioq.4 1itc.0 1iuu.4 1iuw.0 1ivy.4 1iww.0 1iyt.4 1iz4.0 1ize.4 1izk.0 ",
     "1izx.4 1j0g.0 1j22.4 1j28.0 1j2i.4 1j2o.0 1j38.4 1j40.0 1j4r.4 1j4t.0 1j58.4 1j5c.0 1j5z.4 ",
     "1jb4.0 1jcs.4 1jfk.2j1 1jfl.2j2 1jfm.2j3 1jfn.2j4 1jfo.2j5 1jfp.2j6 1jfq.2j7 1jfr.2j8 1jfs.2j9 ",
     "1jft.2ja 1jfu.2jb 1jfv.2jc 1jfw.2jd 1jfx.2je 1jfy.2jf 1jfz.2jg 1jg0.2jh 1jg1.2ji 1jg2.2jj ",
     "1jg3.2jk 1jg4.2jl 1jg5.2jm 1jg6.2jn 1jg7.2jo 1jg8.2jp 1jg9.2jq 1jga.2jr 1jgb.2js 1jgc.2jt ",
     "1jgd.2ju 1jge.2jv 1jgf.2jw 1jgg.0 1jhv.4 1ji7.0 1jif.4 1jih.0 1jii.4 1jik.0 1jis.4 1jit.0 1jiv.4 ",
     "1jiw.0 1jjq.4 1jjr.0 1jjt.4 1jjv.0 1jk7.4 1jkg.0 1jkq.4 1jmo.0 1jmw.4 1jmy.0 1jo8.4 1joa.0 ",
     "1jol.4 1jpc.0 1jrc.4 1jrk.0 1jtv.4 1ju8.0 1jw9.4 1jwg.0 1jwq.4 1jz4.0 1jzc.4 1k1s.0 1k2q.4 ",
     "1k34.0 1k3e.4 1k3k.0 1k3t.4 1k3u.0 1k53.4 1k54.0 1k5i.4 1k5s.0 1k6l.4 1k6o.0 1k7k.4 1k7m.0 ",
     "1k88.4 1k89.0 1k8n.4 1kao.0 1kav.4 1kaw.0 1kay.4 1kaz.0 1kc7.4 1kca.0 1kcb.4 1kcc.0 1kce.4 ",
     "1kcf.0 1kco.4 1kcw.0 1kd6.4 1kdc.0 1kdi.4 1kdj.0 1kdl.4 1kdm.0 1ken.4 1keo.0 1keq.4 1ker.0 ",
     "1kex.4 1kf4.0 1kfe.4 1kfk.0 1kgs.4 1kgw.0 1kh6.4 1ko0.0 1kop.4 1kow.0 1kpd.4 1kpe.0 1kqj.4 ",
     "1kqm.0 1krf.4 1kts.0 1ktt.4 1ku8.0 1kvm.4 1kvz.0 1llm.4 1log.0 1lrj.4 1lrk.0 1lrp.4 1ls0.0 ",
     "1lxg.4 1nyo.0 1o1f.4 1o1s.0 1ovk.4 1ow0.0 1owm.4 1oww.0 1rzv.4 1s00.0 1sg7.4 1xq8.0 1xru.4 ",
     "1z40.0 1zjt.4 1zk0.0 1zkv.4 1zkw.0 1zl6.4 1zla.0 1znj.4 1znk.0 1znu.4 1zo0.0 1zou.4 1zow.0 ",
     "1zp2.4 1zpc.0 1zra.4 1zrk.0 1zru.4 1zrv.0 1zs2.4 1zs3.0 1zso.4 1zst.0 1ztc.4 205c.0 206y.4 ",
     "20cg.2jx 20ch.2jy 20ci.2jz 20cj.2k0 20ck.2k1 20cl.2k2 20cm.2k3 20cn.2k4 20co.2k5 20cp.2k6 ",
     "20cq.2k7 20cr.2k8 20cs.2k9 20ct.2ka 20cu.2kb 20cv.2kc 20cw.2kd 20cx.2ke 20cy.2kf 20cz.2kg ",
     "20d0.2kh 20d1.2ki 20d2.2kj 20d3.2kk 20d4.2kl 20d5.2km 20d6.2kn 20d7.2ko 20d8.2kp 20d9.2kq ",
     "20da.2kr 20db.2ks 20dc.0 20ez.4 20f4.2kt 20f5.2ku 20f6.2kv 20f7.2kw 20f8.2kx 20f9.2ky 20fa.2kz ",
     "20fb.2l0 20fc.2l1 20fd.2l2 20fe.2l3 20ff.2l4 20fg.2l5 20fh.2l6 20fi.2l7 20fj.2l8 20fk.2l9 ",
     "20fl.2la 20fm.2lb 20fn.2lc 20fo.2ld 20fp.2le 20fq.2lf 20fr.2lg 20fs.2lh 20ft.4 20fv.0 20gk.4 ",
     "20hs.0 20jv.4 20jz.0 20lk.4 20lr.0 20m8.4 20o0.0 20o5.4 20og.0 20on.4 20ow.0 26dy.4 26f3.0 ",
     "26fz.4 26io.0 26lv.4 2dbk.0 2dbo.4 2dbp.0 2dbw.4 2dbx.0 2dbz.4 2dc0.0 2dk3.4 2dki.0 2dkj.4 ",
     "2dlc.0 2dlf.4 2dlh.0 2dli.4 2dlw.0 2dm0.4 2dm8.0 2dx8.4 2fpc.0 2fsb.4 2fsg.0 2fst.4 2fsw.0 ",
     "2ft5.4 2ftc.0 2ftm.4 2fto.0 2fts.3 2ftw.4 2iv4.0 2j12.5 2j13.6 2j14.7 2j15.8 2j16.9 2j17.a ",
     "2j18.b 2j19.c 2j1a.d 2j1b.e 2j1c.f 2j1d.g 2j1e.h 2j1f.i 2j1g.j 2j1h.k 2j1i.l 2j1j.m 2j1k.n ",
     "2j1l.o 2j1m.p 2j1n.q 2j1o.r 2j1p.s 2j1q.t 2j1r.u 2j1s.pk 2j1t.13 2j1u.y 2j1v.z 2j1w.pl 2j1x.pm ",
     "2j1y.pn 2j1z.po 2j20.pp 2j21.pq 2j22.0 2j25.4 2j28.0 2jec.4 2jei.0 2jf5.4 2jfk.0 2jg1.4 2jgg.0 ",
     "2jhq.4 2jhs.0 2jif.4 2jio.0 2jlw.4 2jnk.0 2jue.4 2juo.0 2jvr.4 2jvt.0 2jxa.2li 2jxb.2lj 2jxc.2lk ",
     "2jxd.2ll 2jxe.2lm 2jxf.2ln 2jxg.2lo 2jxh.0 2jxv.3 2jy3.0 2jzv.2lp 2jzw.2lq 2jzx.2lr 2jzy.2ls ",
     "2jzz.2lt 2k00.2lu 2k01.0 2k17.4 2k1s.0 2k3q.4 2k74.0 2k7o.4 2k80.0 2k8k.4 2k8w.0 2kbb.4 2kbk.0 ",
     "2kc9.4 2kg0.5 2kg1.6 2kg2.7 2kg3.8 2kg4.9 2kg5.a 2kg6.b 2kg7.c 2kg8.d 2kg9.e 2kga.f 2kgb.g ",
     "2kgc.h 2kgd.i 2kge.j 2kgf.k 2kgg.l 2kgh.m 2kgi.n 2kgj.o 2kgk.p 2kgl.q 2kgm.r 2kgn.s 2kgo.t ",
     "2kgp.u 2kgq.5 2kgr.6 2kgs.7 2kgt.8 2kgu.9 2kgv.a 2kgw.b 2kgx.c 2kgy.d 2kgz.e 2kh0.f 2kh1.g ",
     "2kh2.h 2kh3.i 2kh4.j 2kh5.k 2kh6.l 2kh7.m 2kh8.n 2kh9.o 2kha.p 2khb.q 2khc.r 2khd.s 2khe.t ",
     "2khf.u 2khg.5 2khh.6 2khi.7 2khj.8 2khk.9 2khl.a 2khm.b 2khn.c 2kho.d 2khp.e 2khq.f 2khr.g ",
     "2khs.h 2kht.i 2khu.j 2khv.k 2khw.l 2khx.m 2khy.n 2khz.o 2ki0.p 2ki1.q 2ki2.r 2ki3.s 2ki4.t ",
     "2ki5.u 2ki6.5 2ki7.6 2ki8.7 2ki9.8 2kia.9 2kib.a 2kic.b 2kid.4 2kie.d 2kif.e 2kig.f 2kih.g ",
     "2kii.h 2kij.i 2kik.j 2kil.k 2kim.l 2kin.m 2kio.n 2kip.o 2kiq.p 2kir.q 2kis.r 2kit.s 2kiu.t ",
     "2kiv.u 2kiw.5 2kix.6 2kiy.7 2kiz.8 2kj0.9 2kj1.a 2kj2.b 2kj3.c 2kj4.d 2kj5.e 2kj6.f 2kj7.g ",
     "2kj8.h 2kj9.i 2kja.j 2kjb.k 2kjc.l 2kjd.m 2kje.n 2kjf.o 2kjg.p 2kjh.q 2kji.r 2kjj.s 2kjk.t ",
     "2kjl.u 2kjm.5 2kjn.6 2kjo.7 2kjp.8 2kjq.9 2kjr.a 2kjs.b 2kjt.c 2kju.d 2kjv.e 2kjw.f 2kjx.g ",
     "2kjy.h 2kjz.i 2kk0.j 2kk1.k 2kk2.l 2kk3.m 2kk4.n 2kk5.o 2kk6.p 2kk7.q 2kk8.r 2kk9.s 2kka.t ",
     "2kkb.u 2kkc.5 2kkd.4 2kke.7 2kkf.8 2kkg.4 2kki.b 2kkj.4 2kkl.e 2kkm.f 2kkn.4 2kkp.i 2kkq.j ",
     "2kkr.k 2kks.l 2kkt.4 2kku.n 2kkv.o 2kkw.p 2kkx.q 2kky.r 2kkz.s 2kl0.t 2kl1.u 2kl2.5 2kl3.6 ",
     "2kl4.7 2kl5.8 2kl6.4 2kl7.a 2kl8.4 2kl9.c 2kla.d 2klb.e 2klc.f 2kld.g 2kle.h 2klf.i 2klg.4 ",
     "2klh.k 2kli.l 2klj.m 2klk.n 2kll.o 2klm.p 2kln.q 2klo.r 2klp.s 2klq.t 2klr.u 2kls.5 2klt.6 ",
     "2klu.7 2klv.8 2klw.9 2klx.a 2kly.b 2klz.c 2km0.d 2km1.e 2km2.f 2km3.g 2km4.h 2km5.i 2km6.j ",
     "2km7.k 2km8.l 2km9.m 2kma.n 2kmb.o 2kmc.p 2kmd.q 2kme.r 2kmf.s 2kmg.t 2kmh.u 2kmi.5 2kmj.6 ",
     "2kmk.7 2kml.8 2kmm.9 2kmn.a 2kmo.b 2kmp.c 2kmq.d 2kmr.e 2kms.f 2kmt.g 2kmu.h 2kmv.i 2kmw.j ",
     "2kmx.k 2kmy.l 2kmz.m 2kn0.n 2kn1.o 2kn2.p 2kn3.q 2kn4.r 2kn5.s 2kn6.t 2kn7.u 2kn8.5 2kn9.6 ",
     "2kna.4 2knb.8 2knc.9 2knd.a 2kne.b 2knf.4 2knh.e 2kni.f 2knj.g 2knk.h 2knl.i 2knm.j 2knn.k ",
     "2kno.l 2knp.4 2knq.n 2knr.o 2kns.p 2knt.q 2knu.r 2knv.s 2knw.t 2knx.4 2kny.5 2knz.6 2ko0.7 ",
     "2ko1.8 2ko2.9 2ko3.a 2ko4.b 2ko5.c 2ko6.d 2ko7.e 2ko8.f 2ko9.g 2koa.h 2kob.i 2koc.j 2kod.k ",
     "2koe.l 2kof.m 2kog.n 2koh.o 2koi.p 2koj.q 2kok.r 2kol.s 2kom.t 2kon.u 2koo.5 2kop.6 2koq.4 ",
     "2kor.8 2kos.9 2kot.a 2kou.b 2kov.4 2kow.d 2kox.e 2koy.f 2koz.g 2kp0.h 2kp1.4 2kp2.j 2kp3.4 ",
     "2kp6.n 2kp7.o 2kp8.p 2kp9.q 2kpa.r 2kpb.s 2kpc.t 2kpd.4 2kpe.5 2kpf.6 2kpg.7 2kph.8 2kpi.9 ",
     "2kpj.a 2kpk.b 2kpl.c 2kpm.d 2kpn.e 2kpo.f 2kpp.g 2kpq.h 2kpr.i 2kps.j 2kpt.k 2kpu.l 2kpv.m ",
     "2kpw.n 2kpx.o 2kpy.p 2kpz.q 2kq0.r 2kq1.s 2kq2.t 2kq3.u 2kq4.5 2kq5.6 2kq6.7 2kq7.8 2kq8.9 ",
     "2kq9.a 2kqa.b 2kqb.c 2kqc.d 2kqd.e 2kqe.f 2kqf.g 2kqg.h 2kqh.i 2kqi.j 2kqj.k 2kqk.l 2kql.m ",
     "2kqm.n 2kqn.o 2kqo.p 2kqp.q 2kqq.r 2kqr.s 2kqs.t 2kqt.u 2kqu.5 2kqv.6 2kqw.7 2kqx.8 2kqy.9 ",
     "2kqz.a 2kr0.b 2kr1.c 2kr2.d 2kr3.e 2kr4.f 2kr5.g 2kr6.h 2kr7.i 2kr8.j 2kr9.k 2kra.l 2krb.m ",
     "2krc.n 2krd.o 2kre.p 2krf.q 2krg.r 2krh.s 2kri.t 2krj.u 2krk.5 2krl.6 2krm.7 2krn.8 2kro.9 ",
     "2krp.a 2krq.b 2krr.c 2krs.d 2krt.e 2kru.f 2krv.g 2krw.h 2krx.i 2kry.j 2krz.k 2ks0.l 2ks1.m ",
     "2ks2.n 2ks3.o 2ks4.p 2ks5.q 2ks6.r 2ks7.s 2ks8.t 2ks9.u 2ksa.5 2ksb.6 2ksc.7 2ksd.8 2kse.9 ",
     "2ksf.a 2ksg.b 2ksh.c 2ksi.d 2ksj.e 2ksk.f 2ksl.g 2ksm.h 2ksn.i 2kso.j 2ksp.k 2ksq.l 2ksr.m ",
     "2kss.n 2kst.o 2ksu.p 2ksv.q 2ksw.r 2ksx.s 2ksy.t 2ksz.u 2kt0.5 2kt1.6 2kt2.7 2kt3.8 2kt4.9 ",
     "2kt5.a 2kt6.b 2kt7.c 2kt8.d 2kt9.e 2kta.f 2ktb.g 2ktc.h 2ktd.i 2kte.j 2ktf.k 2ktg.l 2kth.m ",
     "2kti.n 2ktj.o 2ktk.p 2ktl.q 2ktm.r 2ktn.s 2kto.t 2ktp.u 2ktq.5 2ktr.6 2kts.7 2ktt.8 2ktu.9 ",
     "2ktv.a 2ktw.b 2ktx.c 2kty.d 2ktz.e 2ku0.f 2ku1.g 2ku2.h 2ku3.i 2ku4.j 2ku5.k 2ku6.l 2ku7.m ",
     "2ku8.n 2ku9.o 2kua.p 2kub.q 2kuc.r 2kud.s 2kue.t 2kuf.u 2kug.5 2kuh.6 2kui.7 2kuj.8 2kuk.9 ",
     "2kul.a 2kum.b 2kun.c 2kuo.d 2kup.e 2kuq.f 2kur.g 2kus.h 2kut.i 2kuu.j 2kuv.k 2kuw.l 2kux.m ",
     "2kuy.n 2kuz.o 2kv0.p 2kv1.q 2kv2.r 2kv3.s 2kv4.t 2kv5.u 2kv6.5 2kv7.6 2kv8.7 2kv9.8 2kva.9 ",
     "2kvb.a 2kvc.b 2kvd.c 2kve.d 2kvf.e 2kvg.f 2kvh.g 2kvi.h 2kvj.i 2kvk.j 2kvl.k 2kvm.l 2kvn.m ",
     "2kvo.n 2kvp.o 2kvq.p 2kvr.q 2kvs.r 2kvt.s 2kvu.t 2kvv.u 2kvw.5 2kvx.6 2kvy.7 2kvz.8 2kw0.9 ",
     "2kw1.a 2kw2.b 2kw3.c 2kw4.d 2kw5.e 2kw6.f 2kw7.g 2kw8.h 2kw9.i 2kwa.j 2kwb.k 2kwc.l 2kwd.m ",
     "2kwe.n 2kwf.o 2kwg.p 2kwh.q 2kwi.r 2kwj.s 2kwk.t 2kwl.u 2kwm.5 2kwn.6 2kwo.7 2kwp.8 2kwq.9 ",
     "2kwr.a 2kws.b 2kwt.c 2kwu.d 2kwv.e 2kww.f 2kwx.g 2kwy.h 2kwz.i 2kx0.j 2kx1.k 2kx2.l 2kx3.m ",
     "2kx4.n 2kx5.o 2kx6.p 2kx7.q 2kx8.r 2kx9.s 2kxa.t 2kxb.u 2kxc.5 2kxd.6 2kxe.7 2kxf.8 2kxg.9 ",
     "2kxh.a 2kxi.b 2kxj.c 2kxk.d 2kxl.e 2kxm.f 2kxn.g 2kxo.h 2kxp.i 2kxq.j 2kxr.k 2kxs.l 2kxt.m ",
     "2kxu.n 2kxv.o 2kxw.p 2kxx.q 2kxy.r 2kxz.s 2ky0.t 2ky1.u 2ky2.5 2ky3.6 2ky4.7 2ky5.8 2ky6.9 ",
     "2ky7.a 2ky8.b 2ky9.c 2kya.d 2kyb.e 2kyc.f 2kyd.g 2kye.h 2kyf.i 2kyg.j 2kyh.k 2kyi.l 2kyj.m ",
     "2kyk.n 2kyl.o 2kym.p 2kyn.q 2kyo.r 2kyp.s 2kyq.t 2kyr.u 2kys.2lv 2kyt.2lw 2kyu.4 2kyw.7k 2kyx.7l ",
     "2kyy.7m 2kyz.7n 2kz0.7o 2kz1.7p 2kz2.7q 2kz3.7r 2kz4.73 2kz5.7s 2kz6.7t 2kz7.11 2kz8.7u 2kz9.7v ",
     "2kza.7w 2kzb.7x 2kzc.7y 2kzd.7r 2kze.7z 2kzf.80 2kzg.81 2kzh.82 2kzi.83 2kzj.84 2kzk.85 2kzl.2lx ",
     "2kzm.7k 2kzn.7l 2kzo.7m 2kzp.7n 2kzq.7o 2kzr.7p 2kzs.7q 2kzt.7r 2kzu.73 2kzv.7s 2kzw.7t 2kzx.11 ",
     "2kzy.7u 2kzz.7v 2l00.7w 2l01.7x 2l02.7y 2l03.7z 2l05.80 2l06.81 2l07.82 2l08.83 2l09.84 2l0a.85 ",
     "2l0b.2ly 2l0c.7o 2l0d.7r 2l0e.7s 2l0f.82 2l0g.7y 2l0h.7x 2l0i.7k 2l0j.7l 2l0k.7m 2l0l.7n 2l0m.7o ",
     "2l0n.7p 2l0o.7q 2l0p.7r 2l0q.73 2l0r.7s 2l0s.7t 2l0t.11 2l0u.7u 2l0v.7v 2l0w.7w 2l0x.7x 2l0y.7y ",
     "2l0z.7r 2l10.7z 2l11.80 2l12.81 2l13.82 2l14.83 2l15.84 2l16.85 2l17.2lx 2l18.7k 2l19.7l 2l1a.7m ",
     "2l1b.7n 2l1c.7o 2l1d.7p 2l1e.7q 2l1f.7r 2l1g.73 2l1h.7s 2l1i.7t 2l1j.11 2l1k.7u 2l1l.7v 2l1m.7w ",
     "2l1n.7x 2l1o.7y 2l1p.7z 2l1r.80 2l1s.81 2l1t.82 2l1u.83 2l1v.84 2l1w.85 2l1x.2ly 2l1y.7o 2l1z.7r ",
     "2l20.7s 2l21.82 2l22.7y 2l23.7x 2l24.7k 2l25.7l 2l26.7m 2l27.7n 2l28.7o 2l29.7p 2l2a.7q 2l2b.7r ",
     "2l2c.73 2l2d.7s 2l2e.7t 2l2f.11 2l2g.7u 2l2h.7v 2l2i.7w 2l2j.7x 2l2k.7y 2l2l.7r 2l2m.7z 2l2n.80 ",
     "2l2o.81 2l2p.82 2l2q.83 2l2r.84 2l2s.85 2l2t.2lx 2l2u.7k 2l2v.7l 2l2w.7m 2l2x.7n 2l2y.7o 2l2z.7p ",
     "2l30.7q 2l31.7r 2l32.73 2l33.7s 2l34.7t 2l35.11 2l36.7u 2l37.7v 2l38.7w 2l39.7x 2l3a.7y 2l3b.7z ",
     "2l3d.80 2l3e.81 2l3f.82 2l3g.83 2l3h.84 2l3i.85 2l3j.2ly 2l3k.7o 2l3l.7r 2l3m.7s 2l3n.82 2l3o.7y ",
     "2l3p.7x 2l3q.7k 2l3r.7l 2l3s.7m 2l3t.7n 2l3u.7o 2l3v.7p 2l3w.7q 2l3x.7r 2l3y.73 2l3z.7s 2l40.7t ",
     "2l41.11 2l42.7u 2l43.7v 2l44.7w 2l45.7x 2l46.7y 2l47.7r 2l48.7z 2l49.80 2l4a.81 2l4b.82 2l4c.83 ",
     "2l4d.84 2l4e.85 2l4f.2lx 2l4g.7k 2l4h.7l 2l4i.7m 2l4j.7n 2l4k.7o 2l4l.7p 2l4m.7q 2l4n.7r 2l4o.73 ",
     "2l4p.7s 2l4q.7t 2l4r.11 2l4s.7u 2l4t.7v 2l4u.7w 2l4v.7x 2l4w.7y 2l4x.7z 2l4z.80 2l50.81 2l51.82 ",
     "2l52.83 2l53.84 2l54.85 2l55.2ly 2l56.7o 2l57.7r 2l58.7s 2l59.82 2l5a.7y 2l5b.7x 2l5c.7k 2l5d.7l ",
     "2l5e.7m 2l5f.7n 2l5g.7o 2l5h.7p 2l5i.7q 2l5j.7r 2l5k.73 2l5l.7s 2l5m.7t 2l5n.11 2l5o.7u 2l5p.7v ",
     "2l5q.7w 2l5r.7x 2l5s.7y 2l5t.7r 2l5u.7z 2l5v.80 2l5w.81 2l5x.82 2l5y.83 2l5z.84 2l60.85 2l61.2lx ",
     "2l62.7k 2l63.7l 2l64.7m 2l65.7n 2l66.7o 2l67.7p 2l68.7q 2l69.7r 2l6a.73 2l6b.7s 2l6c.7t 2l6d.11 ",
     "2l6e.7u 2l6f.7v 2l6g.7w 2l6h.7x 2l6i.7y 2l6j.7z 2l6l.80 2l6m.81 2l6n.82 2l6o.83 2l6p.84 2l6q.85 ",
     "2l6r.2ly 2l6s.7o 2l6t.7r 2l6u.7s 2l6v.82 2l6w.7y 2l6x.7x 2l6y.8b 2l70.4 2l72.pk 2l73.13 2l74.y ",
     "2l75.z 2l76.pl 2l77.pm 2l78.pn 2l79.po 2l7a.pp 2l7b.pq 2l7c.pk 2l7d.13 2l7e.y 2l7f.z 2l7g.pl ",
     "2l7h.pm 2l7i.pn 2l7j.po 2l7k.pp 2l7l.pq 2l7m.pk 2l7n.13 2l7o.y 2l7p.z 2l7q.pl 2l7r.pm 2l7s.pn ",
     "2l7t.po 2l7u.pp 2l7v.pq 2l7w.pk 2l7x.13 2l7y.y 2l7z.z 2l80.pl 2l81.pm 2l82.pn 2l83.po 2l84.pp ",
     "2l85.pq 2l86.pk 2l87.13 2l88.y 2l89.z 2l8a.pl 2l8b.pm 2l8c.pn 2l8d.po 2l8e.pp 2l8f.pq 2l8g.0 ",
     "2lqk.4 2lqz.0 2lr4.4 2lr5.0 2lrk.4 2mm8.0 2mn3.4 2mn9.0 2mnf.4 2mtc.0 2mtj.4 2mtk.0 2mu1.4 ",
     "2mu3.0 2mua.4 2mub.0 2mud.4 2mue.0 2muj.4 2muo.96 2mup.97 2muq.98 2mur.99 2mus.9a 2mut.9b ",
     "2muu.9c 2muv.9d 2muw.9e 2mux.9g 2muy.9h 2muz.9i 2mv0.9k 2mv1.9l 2mv2.9m 2mv3.9n 2mv4.9o 2mv5.9p ",
     "2mv6.9q 2mv7.9r 2mv8.9s 2mv9.9t 2mva.9u 2mvb.9x 2mvc.9z 2mvd.a0 2mve.1it 2mvf.bm 2mvg.8w 2mvh.8y ",
     "2mvi.bu 2mvj.b1 2mvk.ba 2mvl.96 2mvm.97 2mvn.98 2mvo.99 2mvp.9a 2mvq.9b 2mvr.9c 2mvs.9d 2mvt.9e ",
     "2mvu.9g 2mvv.9h 2mvw.9k 2mvx.9l 2mvy.9n 2mvz.9p 2mw0.9q 2mw1.9r 2mw2.9s 2mw3.9t 2mw4.9u 2mw5.9w ",
     "2mw6.9x 2mw7.am 2mw8.8w 2mw9.8v 2mwa.95 2mwb.az 2mwc.1ia 2mwd.b2 2mwe.4 2mxb.0 2mxc.4 2n0g.0 ",
     "2n1p.4 2n1s.0 2n26.4 2n28.0 2n2i.4 2n2m.0 2n2o.4 2nbk.0 2ncf.4 2ncw.0 2nei.4 2nen.0 2neo.4 ",
     "2nrk.0 2nsq.4 2nyo.0 2nzv.4 2nzz.0 2o00.4 2o5c.0 2o67.4 2o68.0 2o6u.4 2o72.0 2o74.4 2odc.0 ",
     "2odj.4 2odk.0 2odo.4 2odp.0 2odr.4 2ods.0 2oe7.4 2oe8.0 2ojp.4 2ojr.0 2ok7.4 2olc.2lz 2old.2m0 ",
     "2ole.2m1 2olf.2m2 2olg.2m3 2olh.2m4 2oli.2m5 2olj.2m6 2olk.2m7 2oll.2m8 2olm.2m9 2oln.2ma ",
     "2olo.2mb 2olp.2mc 2olq.2md 2olr.2me 2ols.2mf 2olt.2mg 2olu.2mh 2olv.2mi 2olw.2mj 2olx.2mk ",
     "2oly.2ml 2olz.2mm 2om0.2mn 2om1.2mo 2om2.2mp 2om3.2mq 2om4.2mr 2om5.2ms 2om6.2mt 2om7.2mu ",
     "2om8.2mv 2om9.2mw 2oma.0 2ong.4 2onk.0 2onu.4 2ony.0 2oo0.4 2p9t.0 2pbp.4 2pdt.0 2pfi.4 2pkw.2au ",
     "2pkx.2av 2pky.2az 2pkz.2b2 2pl0.4 2pl1.2bl 2pl2.2b5 2pl3.2b0 2pl4.2ba 2pl5.2bm 2pl6.2bg 2pl7.2bh ",
     "2pl8.2bi 2pl9.2bj 2pla.2b6 2plb.2bc 2plc.2be 2pld.2b8 2ple.2bf 2plf.2b4 2plg.2b7 2plh.2ax ",
     "2pli.2ay 2plj.2b1 2plk.2b3 2pll.2b9 2plm.2bb 2pln.2bd 2plo.2mx 2plp.216 2plq.2my 2plr.2mz 2pls.4 ",
     "2plt.2av 2plu.2az 2plv.4 2plw.2bk 2plx.4 2plz.2b0 2pm0.4 2pm1.2bm 2pm2.2bg 2pm3.2bh 2pm4.2bi ",
     "2pm5.2bj 2pm6.2b6 2pm7.2bc 2pm8.2be 2pm9.2b8 2pma.2bf 2pmb.4 2pmc.2b7 2pmd.2ax 2pme.2ay 2pmf.2b1 ",
     "2pmg.4 2pmh.2b9 2pmi.4 2pmj.2bd 2pmk.4 2pmq.2az 2pmr.4 2pmv.2b0 2pmw.4 2pmx.2bm 2pmy.4 2pmz.2bh ",
     "2pn0.4 2pn1.2bj 2pn2.2b6 2pn3.2bc 2pn4.4 2pn5.2b8 2pn6.2bf 2pn7.4 2pn8.2b7 2pn9.4 2pnb.2b1 ",
     "2pnc.4 2pnd.2b9 2pne.4 2pnf.2bd 2png.4 2pnh.216 2pni.4 2pnj.2mz 2pnk.4 2pnl.2av 2pnm.2az 2pnn.4 ",
     "2pno.2bk 2pnp.4 2pnr.2b0 2pns.2ba 2pnt.2bm 2pnu.2bg 2pnv.4 2pnw.2bi 2pnx.2bj 2pny.2b6 2pnz.2bc ",
     "2po0.2be 2po1.2b8 2po2.2bf 2po3.4 2po4.2b7 2po5.2ax 2po6.2ay 2po7.2b1 2po8.4 2po9.2b9 2poa.2bb ",
     "2pob.2bd 2poc.2mx 2pod.4 2poe.2my 2pof.4 2pog.2au 2poh.2av 2poi.2az 2poj.2b2 2pok.2bk 2pol.2bl ",
     "2pom.2b5 2pon.2b0 2poo.2ba 2pop.2bm 2poq.4 2por.2bh 2pos.2bi 2pot.2bj 2pou.2b6 2pov.2bc 2pow.2be ",
     "2pox.2b8 2poy.2bf 2poz.2b4 2pp0.2b7 2pp1.2ax 2pp2.2ay 2pp3.2b1 2pp4.2b3 2pp5.2b9 2pp6.2bb ",
     "2pp7.2bd 2pp8.4 2ppd.2av 2ppe.2az 2ppf.2b2 2ppg.4 2pph.2bl 2ppi.2b5 2ppj.2b0 2ppk.2ba 2ppl.2bm ",
     "2ppm.4 2ppn.2bh 2ppo.2bi 2ppp.2bj 2ppq.2b6 2ppr.2bc 2pps.2be 2ppt.2b8 2ppu.2bf 2ppv.2b4 2ppw.2b7 ",
     "2ppx.2ax 2ppy.2ay 2ppz.2b1 2pq0.2b3 2pq1.2b9 2pq2.2bb 2pq3.2bd 2pq4.4 2prk.0 2prm.4 2pz4.0 ",
     "2q0c.4 2q0g.0 2q38.4 2q3k.0 2q3z.4 2q41.0 2q4g.4 2q4h.0 2q4w.4 2q4x.0 2q5y.4 2q69.2n0 2q6a.2n1 ",
     "2q6b.2n2 2q6c.2n3 2q6d.2n4 2q6e.2n5 2q6f.2n6 2q6g.2n7 2q6h.2n8 2q6i.2n9 2q6j.0 2q6o.s6 2q6p.s7 ",
     "2q6q.s8 2q6r.s9 2q6s.sa 2q6t.sb 2q6u.sc 2q6v.sd 2q6w.se 2q6x.sf 2q6y.sg 2q6z.sh 2q70.si 2q71.sj ",
     "2q72.sk 2q73.sl 2q74.sm 2q75.sn 2q76.so 2q77.sp 2q78.sq 2q79.sr 2q7a.ss 2q7b.st 2q7c.su 2q7d.sv ",
     "2q7e.2na 2q7f.7 2q7g.m 2q7h.1gk 2q7i.2nb 2q7j.0 2q7k.5 2q7l.6 2q7m.7 2q7n.8 2q7o.9 2q7p.a 2q7q.b ",
     "2q7r.c 2q7s.d 2q7t.e 2q7u.f 2q7v.g 2q7w.h 2q7x.i 2q7y.j 2q7z.k 2q80.l 2q81.m 2q82.n 2q83.o ",
     "2q84.p 2q85.q 2q86.r 2q87.s 2q88.t 2q89.u 2q8a.2nc 2q8b.1g9 2q8c.2nd 2q8d.2ne 2q8e.2nf 2q8f.2ng ",
     "2q8g.0 2q96.2nh 2q97.2ni 2q98.2nj 2q99.0 2qa8.2nk 2qa9.0 2qb2.4 2qcm.0 2qdc.2nl 2qdd.2nm ",
     "2qde.1a5 2qdf.4 2qds.xz 2qdt.2nn 2qdu.2no 2qdv.2np 2qdw.we 2qdx.2nq 2qdy.2nr 2qdz.157 2qe0.2ns ",
     "2qe1.2nt 2qe2.2nu 2qe3.1sq 2qe4.2nv 2qe5.2nw 2qe6.2nx 2qe7.2ny 2qe8.2nz 2qe9.2o0 2qea.yz ",
     "2qeb.2o1 2qec.2o2 2qed.2o3 2qee.2o4 2qef.2o5 2qeg.2o6 2qeh.w8 2qei.14z 2qej.2o7 2qek.18q ",
     "2qel.152 2qem.18r 2qen.2o8 2qeo.10j 2qep.2o9 2qeq.2oa 2qer.2ob 2qes.2oc 2qet.2od 2qeu.189 ",
     "2qev.y9 2qew.2oe 2qex.2of 2qey.2og 2qez.2oh 2qf0.4 2qf4.2oi 2qf5.2oj 2qf6.2ok 2qf7.2ol 2qf8.2om ",
     "2qf9.2on 2qfa.2oo 2qfb.2op 2qfc.2oq 2qfd.4 2qfk.2or 2qfl.2os 2qfm.4 2qg0.0 2qg6.4 2qkg.0 2rbt.4 ",
     "2rbw.0 2rcd.4 2rcg.0 2rct.4 2rcw.0 2riy.4 2rj4.0 2rjg.4 2rjk.0 2rjl.4 2rk0.0 2rkc.4 2rkg.0 ",
     "2rm0.4 2rm8.0 2rmi.4 2rmo.0 2rns.4 2ro0.0 2rou.4 2row.0 2rp8.4 2rpc.0 2rpe.4 2rps.0 2rq1.4 ",
     "2rr4.0 2s0o.4 2s0w.0 2s1a.4 2s1c.0 2s1p.4 2s1s.0 2s23.4 2s26.0 2s3r.4 2s3s.0 2s3t.4 2s3x.0 ",
     "2s4d.4 2s4f.0 2s4r.4 2s4v.0 2s55.4 2s5c.0 2s9f.4 2s9g.0 2sc0.pk 2sc1.13 2sc2.y 2sc3.z 2sc4.pl ",
     "2sc5.pm 2sc6.pn 2sc7.po 2sc8.pp 2sc9.pq 2sca.0 2scb.4 2t4w.0 3q3k.4 3q4g.0 3ti6.4 3ti8.0 3xym.4 ",
     "3xyo.0 43q9.4 43qo.0 447y.4 464g.2ot 464h.2ou 464i.2ov 464j.2ow 464k.2ox 464l.1vb 464m.2oy ",
     "464n.2oz 464o.2p0 464p.2p1 464q.1vc 464r.2p2 464s.2p3 464t.2p4 464u.1vd 464v.2p5 464w.2p6 ",
     "464x.2p7 464y.2p8 464z.2p9 4650.2pa 4651.2nx 4652.2pb 4653.2pc 4654.2pd 4655.2pe 4656.2pf ",
     "4657.1ww 4658.2pg 4659.wo 465a.2ph 465b.2pi 465c.2pj 465d.2pk 465e.2of 465f.2pl 465g.2pm ",
     "465h.1x1 465i.1ve 465j.1vf 465k.1x2 465l.2pn 465m.2po 465n.1qc 465o.2pp 465p.1vg 465q.2pq ",
     "465r.2pr 465s.2ps 465t.2pt 465w.2pu 465x.2pv 465y.2pw 465z.2px 4660.2py 4661.2pz 4662.2q0 ",
     "4663.2q1 4664.2q2 4665.2q3 4666.2q4 4667.2q5 4668.2q6 4669.2q7 466a.2q8 466b.2q9 466c.2qa ",
     "466d.2qb 466f.1x4 466g.2qc 466h.2qd 466i.2qe 466j.2qf 466k.1vi 466l.2qg 466m.2qh 466n.2qi ",
     "466o.1ue 466p.2qj 466q.2qk 466r.2ql 466s.2qm 466t.2qn 466u.2qo 466v.2qp 466w.2qq 466x.2qr ",
     "466y.2qs 466z.2qt 4670.2qu 4671.2nq 4672.2qv 4673.2qw 4674.2qx 4675.2qy 4676.2qz 4677.2r0 ",
     "4678.2r1 4679.2r2 467a.2r3 467b.2r4 467c.2r5 467d.2r6 467e.2r7 467g.2r8 467h.2r9 467i.2ra ",
     "467j.1q8 467k.2rb 467l.2rc 467m.2rd 467n.2re 467o.2rf 467p.xe 467q.2rg 467r.2rh 467s.xg 467t.2ri ",
     "467u.2rj 467v.2rk 467w.2rl 467x.2rm 467y.2rn 467z.2ro 4680.2rp 4681.2rq 4682.2rr 4683.2rs ",
     "4684.2rt 4685.2ru 4686.2rv 4687.2rw 4688.2rx 4689.2ry 468a.2rz 468b.2s0 468c.2s1 468d.2s2 ",
     "468e.1os 468f.2s3 468g.xq 468h.2s4 468j.2s5 468k.2s6 468m.2s7 468n.2s8 468o.2s9 468p.2sa ",
     "468q.2sb 468r.2sc 468s.2sd 468t.2se 468u.2sf 468v.2sg 468w.2sh 468x.2si 468y.2sj 468z.1vn ",
     "4690.2sk 4691.2sl 4692.2sm 4693.2sn 4694.1xg 4695.2sn 4696.2so 4697.1vp 4698.2sp 4699.2sq ",
     "469a.2sr 469b.2ss 469c.1vq 469d.1o1 469e.2st 469f.2su 469g.2sv 469h.2sw 469i.2sx 469j.2sy ",
     "469k.2sz 469l.2t0 469m.2t1 469n.2t2 469o.2t3 469p.2t4 469q.2t5 469r.2t6 469s.2t7 469t.2t8 ",
     "469u.2t9 469v.2ta 469w.2tb 469x.2tc 469y.2td 469z.2te 46a0.1vr 46a1.2tf 46a2.2tg 46a3.2th ",
     "46a4.2ti 46a5.2tj 46a6.2tk 46a7.1vt 46a8.2tl 46a9.2tm 46aa.2tn 46ab.2to 46ac.2tp 46ad.2tq ",
     "46ae.2tr 46af.2ts 46ag.1ot 46ah.1xo 46ai.2tt 46aj.2tu 46ak.2tv 46al.2tw 46am.2tx 46an.2ty ",
     "46ao.2tz 46ap.2u0 46aq.1vu 46ar.2u1 46as.2u2 46at.2u3 46au.2u4 46av.1yu 46aw.2u5 46ax.2u6 ",
     "46ay.2u7 46az.2u8 46b0.2u9 46b1.2ua 46b2.2ub 46b3.2uc 46b4.2ud 46b5.2ue 46b6.2uf 46b7.2ug ",
     "46b8.2uh 46b9.1qp 46ba.2ui 46bb.2uj 46bc.2uk 46bd.2ul 46be.2um 46bf.2un 46bg.2uo 46bh.2up ",
     "46bi.2uq 46bj.2ur 46bk.2us 46bl.1vv 46bm.1t0 46bn.2ut 46bo.2uu 46bp.2uv 46bq.2uw 46br.2ux ",
     "46bs.2uy 46bt.2uz 46bu.2v0 46bv.1xr 46bw.2v1 46bx.2v2 46by.2v3 46bz.2v4 46c0.2v5 46c1.2v6 ",
     "46c2.2v7 46c3.2v8 46c4.1xs 46c5.2v9 46c6.2va 46c7.2vb 46c8.2vc 46c9.2vd 46ca.2ve 46cb.2vf ",
     "46cc.2vg 46cd.2vh 46ce.2vi 46cf.2vj 46cg.2vk 46ch.1xu 46ci.2vl 46cj.2vm 46ck.2vn 46cl.2vo ",
     "46cm.2vp 46cn.2vq 46co.2vr 46cp.2vs 46cq.2vt 46cr.2vu 46cs.2vv 46cu.2vw 46cv.2vx 46cw.1xw ",
     "46cx.2vy 46cy.2vz 46cz.2w0 46d0.2w1 46d1.2w2 46d2.2w3 46d3.2w4 46d4.1qb 46d5.2w5 46d6.2w6 ",
     "46d7.2w7 46d8.2w8 46d9.2w9 46da.2wa 46db.2wb 46dc.1y2 46dd.2wc 46de.2wd 46df.2we 46dg.2wf ",
     "46dh.2wg 46di.2wh 46dk.1y3 46dl.1yw 46dm.2wi 46dn.2wj 46do.2wk 46dp.2wl 46dq.2wm 46dr.1pa ",
     "46ds.1y5 46dt.2wn 46du.2wo 46dv.1w5 46dw.2wp 46dx.2wq 46dy.1uy 46dz.2wr 46e0.2ws 46e1.1w8 ",
     "46e2.2wt 46e3.2wu 46e4.2wv 46e5.2ww 46e7.2wx 46e8.2wy 46e9.2wz 46ea.2x0 46eb.2x1 46ec.2x2 ",
     "46ed.2x3 46ee.2x4 46ef.2x5 46eg.2x6 46eh.2x7 46ei.2x8 46ej.2x9 46ek.2xa 46el.2xb 46em.2xc ",
     "46en.2xd 46eo.2xe 46ep.2xf 46eq.2xg 46er.2xh 46es.2xi 46et.2xj 46eu.2xk 46ev.2xl 46ew.2xm ",
     "46ex.2xn 46ey.1we 46ez.2xo 46f0.2xp 46f1.2xq 46f2.2xr 46f3.2xs 46f4.2xt 46f5.2xu 46f6.2xv ",
     "46f7.2xw 46f8.2xx 46f9.2xy 46fa.2xz 46fb.2y0 46fc.2y1 46fd.2y2 46fe.2y3 46ff.2s5 46fg.2y4 ",
     "46fh.2y5 46fi.2y6 46fj.2y7 46fk.2y8 46fl.2y9 46fm.2ya 46fn.2yb 46fo.2yc 46fp.2yd 46fq.2ye ",
     "46fr.2yf 46fs.1qs 46ft.2yg 46fu.2yh 46fv.2yi 46fw.2yj 46fx.2yk 46fy.2yl 46fz.1wh 46g0.2ym ",
     "46g1.2yn 46g2.2yo 46g3.2yp 46g4.2yq 46g5.2yr 46g6.2ys 46g7.2yt 46g8.2yu 46g9.2yv 46ga.2yw ",
     "46gb.2yx 46gc.2yy 46gd.2yz 46ge.2z0 46gf.2z1 46gg.2z2 46gh.2z3 46gi.2z4 46gj.2z5 46gk.1p5 ",
     "46gl.2z6 46gm.2z7 46gn.2z8 46go.2z9 46gp.2za 46gq.2zb 46gr.1yc 46gs.2zc 46gt.2zd 46gu.2ze ",
     "46gv.2zf 46gw.2zg 46gx.2zh 46gy.2zi 46gz.2zj 46h0.108 46h1.2zk 46h2.2zl 46h3.2zm 46h4.2zn ",
     "46h5.2zo 46h6.2zp 46h7.2zq 46h8.2zr 46h9.2zs 46ha.2zt 46hb.2zu 46hc.1yh 46hd.1yi 46he.10f ",
     "46hf.2zv 46hg.2zw 46hh.2zx 46hi.2zy 46hj.2zz 46hk.300 46hl.301 46hm.302 46hn.303 46ho.304 ",
     "46hp.305 46hq.306 46hr.1yj 46hs.307 46ht.308 46hu.309 46hv.30a 46hw.30b 46hx.30c 46hy.30d ",
     "46hz.30e 46i0.30f 46i1.30g 46i2.30h 46i3.30i 46i4.30j 46i5.30k 46i6.30l 46i7.30m 46i8.30n ",
     "46i9.30o 46ia.30p 46ib.30q 46ic.30r 46id.30s 46ie.30t 46if.30u 46ig.30v 46ih.30w 46ii.30x ",
     "46ij.30y 46ik.30z 46il.310 46im.1yp 46io.311 46ip.312 46iq.313 46ir.314 46is.315 46it.316 ",
     "46iu.317 46iv.318 46iw.319 46ix.31a 46iy.1yq 46iz.31b 46j0.31c 46j1.31d 46j2.31e 46j3.31f ",
     "46j4.31g 46j5.31h 46j6.31i 46j7.31j 46j8.31k 46j9.11r 46ja.31l 46jb.11v 46jc.31m 46jd.31n ",
     "46je.31o 46jf.31p 46jg.120 46jh.31q 46ji.4 47pc.0 4bij.4 4bio.0 4i2i.4 jo5c.3 joc0.4"]

/-- The replacements of mapped characters. -/
def replacementTable : String :=
  String.join
    ["2p 2q 2r 2s 2t 2u 2v 2w 2x 2y 2z 30 31 32 33 34 35 36 37 38 39 3a 3b 3c 3d 3e w w,lk w,lg 1e 1f ",
     "w,ld qk w,mf 1d 1d,6dg,1g 1d,6dg,1e 1f,6dg,1g 68 69 6a 6b 6c 6d 6e 6f 6g 6h 6i 6j 6k 6l 6m 6n 6o ",
     "6p 6q 6r 6s 6t 6u 6w 6x 6y 6z 70 71 72 75 77 79 7b 7d 7f 7h 7j 7l 7n 7p 7r 7t 7v 7x 7z 81 83 85 ",
     "87 89 8b 8d 8f 2x,lj 2x,2y 8l 8n 8q 8s 8u 30,53 8y 90 92 94 jg,32 97 99 9b 9d 9f 9h 9j 9l 9n 9p ",
     "9r 9t 9v 9x 9z a1 a3 a5 a7 a9 ab ad af 73 ai ak am gj ar at gk aw gm gn b0 d9 gp gr b6 gw gz h5 ",
     "h4 bd hb he hh bl bn bp hs bs hv bx i0 c0 i2 i3 c4 c6 ia c9 cd 2s,am 30,2y 32,2y cu cw cy d0 d2 ",
     "d4 d6 d8 db dd df dh dj dl dn dp dr 2s,3e dx b9 cf e1 e3 e5 e7 e9 eb ed ef eh ej el en ep er et ",
     "ev ex ez f1 f3 bi f7 f9 fb fd ff fh fj fl fn 8rp fw be 8rq g2 ao i1 i4 g7 g9 gb gd gf h2 hl hn ",
     "ht w,li w,lj w,lm w,mg w,lf w,ln id lc ld lv lk,ld qh oh oj jd on w,qh 1n s3 w,lk,ld q4 53 q5 q6 ",
     "q7 r0 r1 r2 q9 qa qb qc qd qe qf qg qi qj ql qm qn qo qp qr qs qt qu qv qw qx qy qz rb rd rf rh ",
     "rj rl rn rp rr rt rv rx rz s8 sb or os ot uo up uq ur us ut uu uv uw ux uy uz v0 v1 v2 v3 ts tt ",
     "tu tv tw tx ty tz u0 u1 u2 u3 u4 u5 u6 u7 u8 u9 ua ub uc ud ue uf ug uh ui uj uk ul um un v5 v7 ",
     "v9 vb vd vf vh vj vl vn vp vr vt vv vx vz w1 wb wd wf wh wj wl wn wp wr wt wv wx wz x1 x3 x5 x7 ",
     "x9 xb xd xf xh xj xl xn xp xr y7 xu xw xy y0 y2 y4 y6 y9 yb yd yf yh yj yl yn yp yr yt yv yx yz ",
     "z1 z3 z5 z7 z9 zb zd zf zh zj zl zn zp zr zt zv zx zz 101 103 105 107 109 10b 10d 10f 10h 10j ",
     "10l 10n 10p 10r 10t 10v 129 12a 12b 12c 12d 12e 12f 12g 12h 12i 12j 12k 12l 12m 12n 12o 12p 12q ",
     "12r 12s 12t 12u 12v 12w 12x 12y 12z 130 131 132 133 134 135 136 137 138 139 13a 12d,136 17r,19w ",
     "18o,19w 1c7,19w 18q,19w 1sl,1to 1sm,1to 1sn,1to 1ss,1to 1sx,1to 1sy,1to 1t7,1to 1tb,1to 1wh,1x8 ",
     "1wi,1x8 1wv,1x8 20i,20s 20o,20s 1zq,20s 1zr,20s 1zw,20s 20b,20s 275,27w 276,27w 2tp,2sy 2x9,2wi ",
     "2wb,2vt 2wb,2w1 2yz 30i,33r 30s,33r 30x,33r 312,33r 317,33r 30g,33p 31t,31u 31t,31w 33m,328 ",
     "33m,31t,328 33n,328 33n,31t,328 31t,328 32q,33r 330,33r 335,33r 33a,33r 33f,33r 32o,33p 8w0 8w1 ",
     "8w2 8w3 8w4 8w5 8w6 8w7 8w8 8w9 8wa 8wb 8wc 8wd 8we 8wf 8wg 8wh 8wi 8wj 8wk 8wl 8wm 8wn 8wo 8wp ",
     "8wq 8wr 8ws 8wt 8wu 8wv 8ww 8wx 8wy 8wz 8x0 8x1 8x3 8x9 3bw 3xs 3xt 3xu 3xv 3xw 3xx wuj 5my 3bk ",
     "3bl 3bm 3bn 3bo 3bp 3bq 3br 3bs 3bt 3bu 3bv 3bx 3by 3bz 3c0 3c1 3c2 3c3 3c4 3c5 3c6 3c7 3c8 3c9 ",
     "3ca 3cb 3cc 3cd 3ce 3cf 3cg 3ch 3ci 3cj 3ck 3cl 3cm 3cn 3co 3cp 3cq 3ct 3cu 3cv gg gh 5qa gs 5qu ",
     "5qv 5r1 5r9 gi gl gv gx h1 h6 5tn il h9 5tx in hd hc hf hg hk hu bv 5r0 i8 i9 5xd 5xf 5xh 5xj ",
     "5xl 5xn 5xp 5xr 5xt 5xv 5xx 5xz 5y1 5y3 5y5 5y7 5y9 5yb 5yd 5yf 5yh 5yj 5yl 5yn 5yp 5yr 5yt 5yv ",
     "5yx 5yz 5z1 5z3 5z5 5z7 5z9 5zb 5zd 5zf 5zh 5zj 5zl 5zn 5zp 5zr 5zt 5zv 5zx 5zz 601 603 605 607 ",
     "609 60b 60d 60f 60h 60j 60l 60n 60p 60r 60t 60v 60x 60z 611 613 615 617 619 61b 61d 61f 61h ",
     "2p,ji 67 61t 61v 61x 61z 621 623 625 627 629 62b 62d 62f 62h 62j 62l 62n 62p 62r 62t 62v 62x 62z ",
     "631 633 635 637 639 63b 63d 63f 63h 63j 63l 63n 63p 63r 63t 63v 63x 63z 641 643 645 647 649 64b ",
     "64d 64f 64g 64h 64i 64j 64k 64l 64m 64n 64w 64x 64y 64z 650 651 65c 65d 65e 65f 65g 65h 65i 65j ",
     "65s 65t 65u 65v 65w 65x 65y 65z 668 669 66a 66b 66c 66d 66p 66r 66t 66v 674 675 676 677 678 679 ",
     "67a 67b 64g,qh 64h,qh 64i,qh 64j,qh 64k,qh 64l,qh 64m,qh 64n,qh 65c,qh 65d,qh 65e,qh 65f,qh ",
     "65g,qh 65h,qh 65i,qh 65j,qh 674,qh 675,qh 676,qh 677,qh 678,qh 679,qh 67a,qh 67b,qh 67k,qh q9,qh ",
     "q4,qh 69i,qh 69c 69d 67k w,lv w,n6 w,lk,n6 67o,qh qf,qh q6,qh 69y,qh 67m 67o w,lv,lc w,lv,ld ",
     "w,lv,n6 pc 6a8 6a9 67q w,lw,lc w,lw,ld w,lw,n6 q8 6ao 6ap 67u 6at w,lk,lc 2o 67w,qh qx,qh r2,qh ",
     "6ba,qh 67s 67w w,lw 6c0 w,mr 6cy,6cy 6cy,6cy,6cy 6d1,6d1 6d1,6d1,6d1 x,x w,lh 1r,1r 1r,x x,1r ",
     "6cy,6cy,6cy,6cy 1c 1g 1h 1i 1j 1k 1l 17 6qa 1p 14 15 36,37 2p,1b,2r 2p,1b,37 4w,2r 2r,1b,33 ",
     "2r,1b,39 4w,2u 32,33 37,31 38,2t,30 38,31 6ku 15c 15d 15e 15f 2u,2p,3c 6q9 1d,6dg,1j 1d,6dg,1l ",
     "1d,6dg,1d,1c 1d,6dg,1f 1e,6dg,1f 1d,6dg,1h 1e,6dg,1h 1f,6dg,1h 1g,6dg,1h 1d,6dg,1i 1h,6dg,1i ",
     "1d,6dg,1k 1f,6dg,1k 1h,6dg,1k 1j,6dg,1k 1d,6dg 2x,2x 2x,2x,2x 2x,3a 3a,2x 3a,2x,2x 3a,2x,2x,2x ",
     "2x,3c 3c,2x 3c,2x,2x 6mc 1c,6dg,1f 6qz,6qz 6qz,6qz,6qz 6r2,6r2 6r2,6r2,6r2 9hk 9hl 1d,1c 1d,1d ",
     "1d,1e 1d,1f 1d,1g 1d,1h 1d,1i 1d,1j 1d,1k 1d,1l 1e,1c 14,1d,15 14,1e,15 14,1f,15 14,1g,15 ",
     "14,1h,15 14,1i,15 14,1j,15 14,1k,15 14,1l,15 14,1d,1c,15 14,1d,1d,15 14,1d,1e,15 14,1d,1f,15 ",
     "14,1d,1g,15 14,1d,1h,15 14,1d,1i,15 14,1d,1j,15 14,1d,1k,15 14,1d,1l,15 14,1e,1c,15 14,2p,15 ",
     "14,2q,15 14,2r,15 14,2s,15 14,2t,15 14,2u,15 14,2v,15 14,2w,15 14,2x,15 14,2y,15 14,2z,15 ",
     "14,30,15 14,31,15 14,32,15 14,33,15 14,34,15 14,35,15 14,36,15 14,37,15 14,38,15 14,39,15 ",
     "14,3a,15 14,3b,15 14,3c,15 14,3d,15 14,3e,15 6qz,6qz,6qz,6qz 1m,1m,1p 1p,1p 1p,1p,1p 8gt,mw 8q8 ",
     "8q9 8qa 8qb 8qc 8qd 8qe 8qf 8qg 8qh 8qi 8qj 8qk 8ql 8qm 8qn 8qo 8qp 8qq 8qr 8qs 8qt 8qu 8qv 8qw ",
     "8qx 8qy 8qz 8r0 8r1 8r2 8r3 8r4 8r5 8r6 8r7 8r8 8r9 8ra 8rb 8rc 8rd 8re 8rf 8rg 8rh 8ri 8rj 8rl ",
     "h7 5tp hp 8rs 8ru 8rw 8s3 8s6 fz g0 8sh 8sj 8sl 8sn 8sp 8sr 8st 8sv 8sx 8sz 8t1 8t3 8t5 8t7 8t9 ",
     "8tb 8td 8tf 8th 8tj 8tl 8tn 8tp 8tr 8tt 8tv 8tx 8tz 8u1 8u3 8u5 8u7 8u9 8ub 8ud 8uf 8uh 8uj 8ul ",
     "8un 8up 8ur 8ut 8uv 8ux 8uz 8v1 8v3 8v5 8v7 8vg 8vi 8vn 8yp lal vj3 feo ffs fg6 fgf fh5 fid fik ",
     "fj4 fju g1r g2t g2z g3m g46 g4r g68 g6t g74 gbf ge1 get gey gfs gg1 ggs gh5 ghu gja gjs gkj h5j ",
     "h7j hkb hky hl6 hlh hlz ho3 i1c i2o i60 i6n i76 i7s i9a i9d ijf ijp ik1 ike inm inu inz ir8 iri ",
     "irv is3 its iu9 iur iwz jd4 jee jez jzj jzo k1z k2f k2s k3d k4g k4l kc0 kco kdk l5s l7m l89 l9v ",
     "laj las laz lcf lck ldg m7f mju mk6 mkb mkf mkn ml5 ml7 mng mtg mtl n30 n3a n4o n4v n54 n5c n7v ",
     "n82 nee nel nfy ngf nhq nob noi noz ny2 o1k o1q o6s o97 oah okz ooo p4m p5d p6y p8d pa9 pak paq ",
     "pbn pdr pe1 pnn pnu po3 poc pos pp7 ppb pri prm prs qj1 qjv qww qx8 qxv r5q r63 r82 r9c rp3 rpi ",
     "rpx rqw rrx rxg rxs rzn s6j s7e sd7 sds sdx sk1 sp5 ssm sss ssx tiv tj4 tng trq trt tt4 tw1 twe ",
     "twi twp tzf u0d u0j u0x u5k u6z u73 uc6 uc9 ucs ujs ul4 ulb un9 unj unm unw uoq uzp vat vb3 vc5 ",
     "vcr vcz vd9 vdd veh vel vf2 vf7 vfk vgb vgq vgy vil vj0 vj4 1a 9hu gg4 gg5 w,9ll w,9lm 9l4,9l6 ",
     "9mb,9mw 3cw 3cx 3hm 3cy 3ho 3hp 3cz 3d0 3d1 3hs 3ht 3hu 3hv 3hw 3hx 3dm 3d2 3d3 3d4 3dt 3d5 3d6 ",
     "3d7 3d8 3d9 3da 3db 3dc 3dd 3de 3fl 3fm 3fn 3fo 3fp 3fq 3fr 3fs 3ft 3fu 3fv 3fw 3fx 3fy 3fz 3g0 ",
     "3g1 3g2 3g3 3g4 3g5 3dg 3dh 3if 3ig 3ik 3im 3ir 3iv 3ix 3do 3j1 3j3 3dp 3dq 3ds 3du 3dv 3dz 3e1 ",
     "3e3 3e4 3e5 3e6 3e7 3ea 3ee 3eo 3ev 3f0 3jl 3jm 3fb 3fc 3fd 3gk 3gl 3go 3gx 3gy 3h0 3ha 3hd fex ",
     "h5n fey ffx fez n5e ffd fep hm1 h80 14,3cw,15 14,3cy,15 14,3cz,15 14,3d1,15 14,3d2,15 14,3d3,15 ",
     "14,3d5,15 14,3d7,15 14,3d8,15 14,3da,15 14,3db,15 14,3dc,15 14,3dd,15 14,3de,15 14,xz4,15 ",
     "14,yvs,15 14,zc4,15 14,108s,15 14,10p4,15 14,115g,15 14,1224,15 14,12ys,15 14,13f4,15 14,14bs,15 ",
     "14,14s4,15 14,158g,15 14,15os,15 14,1654,15 14,13p8,15 14,1350,13ic,15 14,1350,16f8,15 14,feo,15 ",
     "14,fik,15 14,fex,15 14,h5n,15 14,fis,15 14,g31,15 14,fer,15 14,g2z,15 14,fh9,15 14,gg1,15 ",
     "14,kco,15 14,m7f,15 14,ldg,15 14,kdk,15 14,ssx,15 14,h7j,15 14,k4l,15 14,kkq,15 14,kcp,15 ",
     "14,ny6,15 14,glp,15 14,mm1,15 14,rs1,15 14,nz1,15 14,gc4,15 14,fkz,15 14,gos,15 14,i1y,15 ",
     "14,nhf,15 14,flt,15 14,rt3,15 14,ggk,15 14,nzh,15 14,fm9,15 14,pnu,15 14,po3,15 gun inw oen ",
     "34,38,2t 1e,1d 1e,1e 1e,1f 1e,1g 1e,1h 1e,1i 1e,1j 1e,1k 1e,1l 1f,1c 1f,1d 1f,1e 1f,1f 1f,1g ",
     "1f,1h xz4 yvs zc4 108s 10p4 115g 1224 12ys 13f4 14bs 14s4 158g 15os 1654 14c8,y5c 13p8,13dk 138w ",
     "fis g31 fer fh9 kkq kcp ny6 glp mm1 rs1 nz1 gc4 o2g n5j six g16 ghc lig u11 fm9 g49 l7n ijq gkz ",
     "gfv i3b i1y nhf flt rt3 ggk hlo 1f,1i 1f,1j 1f,1k 1f,1l 1g,1c 1g,1d 1g,1e 1g,1f 1g,1g 1g,1h ",
     "1g,1i 1g,1j 1g,1k 1g,1l 1h,1c 1d,kco 1e,kco 1f,kco 1g,kco 1h,kco 1i,kco 1j,kco 1k,kco 1l,kco ",
     "1d,1c,kco 1d,1d,kco 1d,1e,kco 2w,2v 2t,36,2v 2t,3a 30,38,2s 9lu 9lw 9ly 9m0 9m2 9m3 9m5 9m7 9m9 ",
     "9mb 9md 9mf 9mh 9mj 9ml 9mn 9mp 9ms 9mu 9mw 9my 9mz 9n0 9n1 9n2 9n3 9n6 9n9 9nc 9nf 9ni 9nj 9nk ",
     "9nl 9nm 9no 9nq 9ns 9nt 9nu 9nv 9nw 9nx 9nz 9o0 9o1 9o2 fl0,gp8 9lu,9n5,9oc,9mw 9lu,9nv,9n9,9lt ",
     "9lu,9o3,9ne,9lu 9lu,9oc,9nv 9lw,9mz,9o3,9m8 9lw,9o3,9mp 9ly,9m1,9o3 9m0,9mh,9m7,9oc,9mx ",
     "9m0,9oc,9m3,9oc 9m2,9o3,9mh 9m2,9oc,9nk 9m3,9lw,9nu 9m3,9nt,9mr,9mw 9m3,9nx,9nu,9oc 9m4,9nx,9o3 ",
     "9m4,9o3,9ni 9m6,9m4 9m6,9mz,9oc 9m5,9np,9nu,9oc 9m6,9nv,9mo,9oc 9m5,9nx 9m5,9nx,9m8,9nt,9nk ",
     "9m5,9nx,9nl,9oc,9mw,9nv 9m5,9nx,9nz,9mr,9mw 9m8,9nt,9nk 9m8,9nt,9nk,9mw,9o3 9m7,9nv,9mk,9lw,9nx ",
     "9m7,9nx,9oc,9n1 9m9,9oc,9mh 9mb,9nv,9my 9mb,9oc,9nh 9md,9lw,9m7,9nv 9md,9o3,9mp,9oc,9nk ",
     "9mf,9nu,9o3,9m8 9mj,9o3,9mp 9mj,9o3,9mw 9mo,9oc,9mh 9mv,9mf 9mx,9nv 9mw,9o3 9my,9n2 9n2,9mr,9mw ",
     "9n3,9lw,9ms 9n5,9oc,9mj,9o3,9mw 9n5,9oc,9ms 9n4,9oc,9nw,9nv 9n8,9lu,9mh,9mw,9nv 9n8,9m7,9nv ",
     "9n8,9mb 9n7,9nv 9n9,9lt,9nt,9mr,9mx 9n9,9lv,9oc,9mw 9na,9mr,9mf,9lz,9nv 9n9,9nt,9o3 ",
     "9nc,9m7,9mn,9oc,9nv 9ne,9ml 9ne,9mz,9n6 9nc,9nv,9ms 9ne,9o3,9mh 9ne,9oc,9mg 9nd,9oc,9mn ",
     "9nh,9lw,9o3,9mw 9ng,9nv,9mw 9nf,9o3 9nh,9o3,9mx 9nf,9oc,9nv 9nf,9oc,9o3 9ni,9lw,9m7,9nx ",
     "9ni,9lw,9nv 9ni,9mr,9n3 9ni,9nv,9m7 9ni,9o3,9mf,9nr,9o3 9nj,9m7,9nx,9o3 9nj,9nu ",
     "9nj,9nu,9n4,9oc,9nv 9nl,9m4 9nl,9m4,9mw,9o3 9nl,9oc,9mw,9nv 9no,9oc,9mx 9no,9oc,9nv 9nq,9lu,9o3 ",
     "9nu,9mr,9mw,9nv 9nu,9nt 9nv,9n8,9oc 9nv,9oc,9na,9nv 9nw,9nk 9nw,9o3,9mw,9ma,9o3 9nz,9mr,9mw ",
     "1c,m9l 1d,m9l 1e,m9l 1f,m9l 1g,m9l 1h,m9l 1i,m9l 1j,m9l 1k,m9l 1l,m9l 1d,1c,m9l 1d,1d,m9l ",
     "1d,1e,m9l 1d,1f,m9l 1d,1g,m9l 1d,1h,m9l 1d,1i,m9l 1d,1j,m9l 1d,1k,m9l 1d,1l,m9l 1e,1c,m9l ",
     "1e,1d,m9l 1e,1e,m9l 1e,1f,m9l 1e,1g,m9l 2w,34,2p 2s,2p 2p,39 2q,2p,36 33,3a 34,2r 2s,31 2s,31,1e ",
     "2s,31,1f 2x,39 inn,jdc k6l,gp8 hlz,l7n k5q,lh7 kkq,irz,fmi,ny6 34,2p 32,2p qk,2p 31,2p 2z,2p ",
     "2z,2q 31,2q 2v,2q 2r,2p,30 2z,2r,2p,30 34,2u 32,2u qk,2u qk,2v 31,2v 2z,2v 2w,3e 2z,2w,3e ",
     "31,2w,3e 2v,2w,3e 38,2w,3e qk,30 31,30 2s,30 2z,30 2u,31 32,31 qk,31 31,31 2r,31 2z,31 31,31,1e ",
     "2r,31,1e 31,1e 2z,31,1e 31,31,1f 2r,31,1f 31,1f 2z,31,1f 31,6qd,37 31,6qd,37,1e 2z,34,2p ",
     "31,34,2p 2v,34,2p 36,2p,2s 36,2p,2s,6qd,37 36,2p,2s,6qd,37,1e 34,37 32,37 qk,37 31,37 34,3a ",
     "32,3a qk,3a 31,3a 2z,3a 34,3b 32,3b qk,3b 31,3b 2z,3b 2z,qx 31,qx 2q,35 2r,2r 2r,2s 2r,6qd,2z,2v ",
     "2s,2q 2v,3d 2w,2p 2w,34 2x,32 2z,2z 2z,38 30,31 30,32 30,33,2v 30,3c 31,2x,30 31,33,30 34,2w ",
     "34,34,31 34,36 37,36 37,3a 3b,2q 3a,6qd,31 2p,6qd,31 1d,k4l 1e,k4l 1f,k4l 1g,k4l 1h,k4l 1i,k4l ",
     "1j,k4l 1k,k4l 1l,k4l 1d,1c,k4l 1d,1d,k4l 1d,1e,k4l 1d,1f,k4l 1d,1g,k4l 1d,1h,k4l 1d,1i,k4l ",
     "1d,1j,k4l 1d,1k,k4l 1d,1l,k4l 1e,1c,k4l 1e,1d,k4l 1e,1e,k4l 1e,1f,k4l 1e,1g,k4l 1e,1h,k4l ",
     "1e,1i,k4l 1e,1j,k4l 1e,1k,k4l 1e,1l,k4l 1f,1c,k4l 1f,1d,k4l 2v,2p,30 wu9 wub wud wuf wuh wul wun ",
     "wup wur wut wuv wux wuz wv1 wv3 wv5 wv7 wv9 wvb wvd wvf wvh ww1 ww3 ww5 ww7 ww9 wwb wwd wwf wwh ",
     "wwj wwl wwn wwp wwr x0j x0l x0n x0p x0r x0t x0v x0z x11 x13 x15 x17 x19 x1b x1d x1f x1h x1j x1l ",
     "x1n x1p x1r x1t x1v x1x x1z x21 x23 x25 x27 x29 x2b x2d x2f x2h x2j x2l x2n x2y x30 5tl x33 x35 ",
     "x37 x39 x3b x3g x3l x3n x3r x3t x3v x3x x3z x41 x43 x45 x47 x49 h8 im hz xub x4l x4n x4p x4r x4t ",
     "x4v x4x x4z x3o 5u6 x54 x56 h0 x59 x5b x5d x5f x5h x5j x5l x5n bf x6e xtj xua i5 3vk 3vl 3vm 3vn ",
     "3vo 3vp 3vq 3vr 3vs 3vt 3vu 3vv 3vw 3vx 3vy 3vz 3w0 3w1 3w2 3w3 3w4 3w5 3w6 3w7 3w8 3w9 3wa 3wb ",
     "3wc 3wd 3we 3wf 3wg 3wh 3wi 3wj 3wk 3wl 3wm 3wn 3wo 3wp 3wq 3wr 3ws 3wt 3wu 3wv 3ww 3wx 3wy 3wz ",
     "3x0 3x1 3x2 3x3 3x4 3x5 3x6 3x7 3x8 3x9 3xa 3xb 3xc 3xd 3xe 3xf 3xg 3xh 3xi 3xj 3xk 3xl 3xm 3xn ",
     "3xo 3xp 3xq 3xr rpk kc4 rt4 lw1 fg2 gkl hn5 gw7 hmw jcm ne1 p6t qin qt6 r20 sjz kxu ljv mah mvy ",
     "q4d sq2 uep fia ghh l50 mjf qi5 v8e ifk m3v qfh r50 jih pnc qvz iq2 kd3 lm2 mpo slq fpi g53 gda ",
     "jwk l3n mj4 nhj qh2 qjg s1b tv6 upb v7e nt8 nzz otc q15 t1g rfa hjz iro okg pdq mle nuy rsy ttj ",
     "hjs i8y kyb lp6 lxr oq7 oxj tor gcy pe3 g64 g5o o4c ou6 q29 tpx rk0 jin rge fg9 i5j iz6 mtj n74 ",
     "gev nwb fr3 iw9 ff1 lho k1k opu gjn hge ni9 q4p re2 la2 lfs jjy put jog n6t fji g2x g5l kn5 oo7 ",
     "prj rf6 ssv gdx gn6 ir0 k3p m4e nxm tkd ui2 vbr vda kau l87 sbm ino j9s jcw jve lyb mdl n0p o22 ",
     "ovo pdb s9y q9a sgz t3e g7r gbn gql ma0 r0i iq1 iyd jnf l9q oji mt1 fl0 h6h iii izg muq mzt p7e ",
     "pc6 svo tti tvs u1k fpn o1a ss4 trs j4x fie fyy i5q i7z k2h mha ncy q9o sjg k94 tny gax kfv kj7 ",
     "lkx luk mx5 n6h nsb opc u3i je6 tq0 fu3 ie1 lpm sa2 ivf j7o kk7 tqe g89 glr i91 k5v kem ko8 lid ",
     "mx2 naa p6h r0v r1d tsy gfz lve gm5 mhc n14 qgq tr7 uvr vbz kgn lor pns obk olu mo0 m8p riw fk0 ",
     "px2 g8q g7b ip2 jir onq i2t ljy kac saj tot iqb g1s gxs hga k8k g66 mqy ngq ny4 nz2 nz9 o0f tw6 ",
     "on2 qhe rg8 shk sn1 u7j u7w u94 v5g sm6 trr fqm fzb g25 gcp gdg ggh gwt gzq h2g hfk hig i90 j2s ",
     "j8o j9q jci k0f k4i k9d kn9 lmf lqy lya mem mjv mxu ntd nyh nyg nyo nyu o0d o0e o5c o75 og0 ow9 ",
     "oxt p6a pad pnx prt q53 r2o r6e rgh ri1 rtf ruw sdy tsz u0v u2j j1x 36cu pp4 ffq g51 g2w fpc g1x ",
     "g3k gcn ge2 gut gwp gyq hir hms hn8 huq i08 iqa iqh iuh iwd j4o j7y j60 j8g jec jpg jrw jte k0m ",
     "kd7 keu lwb lvv m5a nmv mk5 mnj n01 n46 n5n nbx nbz nh7 nhw nka nk0 nv0 o8h ol7 orf p4u pxu q27 ",
     "qrd r41 r5y ren rez rfx rka sag sj6 srd sxi tq4 tzv u17 umq 313e 3138 33dh brx cns cop 39e1 3bgw ",
     "3i6r vgj vim 2u,2u 2u,2x 2u,30 2u,2u,2x 2u,2u,30 37,38 12s,12u 12s,12d 12s,12j 132,12u 12s,12l ",
     "15l,14k 16a,14n 15u 15g 15n 15o 15p 160 162 161,14x 161,14y 161,14s,14x 161,14s,14y 15c,14n ",
     "15c,14o 15c,14s 15d,14s 15e,14s 15f,14s 15g,14s 15h,14s 15i,14s 15k,14s 15l,14s 15m,14s 15n,14s ",
     "15o,14s 15q,14s 15s,14s 15t,14s 15v,14s 15w,14s 15y,14s 15z,14s 160,14s 161,14s 162,14s 15h,14p ",
     "15d,14v 15n,14v 15w,14v 15c,15o 19t 1a3 1a6 1a8 1a2 1a7 1a1 1b8 1ba 1ac 1ab 1ae 1af 1al 1ak 1am ",
     "1ag 1aw 1ap 1bd 1bj 1bn 1bl 1bu 1bv 1c0 1c1 1by 1ci 1cj 1bh 1c7 1c6 1c8 1cb 1c5 1c9 1cg 18p ",
     "17q,17r 17q,1cl 17q,18o 17q,1c7 17q,1c6 17q,1c8 17q,1cg 17q,18p 1cc 17q,17w 17q,17x 17q,18l ",
     "17q,18q 17s,17w 17s,17x 17s,17y 17s,18l 17s,18p 17s,18q 17u,17w 17u,17x 17u,17y 17u,18l 17u,18p ",
     "17u,18q 17v,17w 17v,18l 17v,18p 17v,18q 17w,17x 17w,18l 17x,17w 17x,18l 17y,17w 17y,17x 17y,18l ",
     "183,17w 183,17x 183,17y 183,18l 185,17x 185,18l 186,17w 186,17x 186,17y 186,18l 187,17x 187,18l ",
     "188,18l 189,17w 189,18l 18a,17w 18a,18l 18h,17w 18h,17x 18h,17y 18h,18l 18h,18p 18h,18q 18i,17x ",
     "18i,18l 18i,18p 18i,18q 18j,17r 18j,17w 18j,17x 18j,17y 18j,18k 18j,18l 18j,18p 18j,18q 18k,17w ",
     "18k,17x 18k,17y 18k,18l 18k,18p 18k,18q 18l,17w 18l,17x 18l,17y 18l,18l 18l,18p 18l,18q 18m,17w ",
     "18m,17x 18m,17y 18m,18l 18m,18p 18m,18q 18n,17w 18n,18l 18n,18p 18n,18q 18q,17w 18q,17x 18q,17y ",
     "18q,18l 18q,18p 18q,18q 180,19s 181,19s 18p,19s w,18s,18x w,18t,18x w,18u,18x w,18v,18x ",
     "w,18w,18x w,18x,19s 17q,181 17q,182 17q,18m 17s,181 17s,182 17s,18m 17u,181 17u,182 17u,18m ",
     "17v,181 17v,182 17v,18m 18l,17r 18m,181 18m,182 18m,18m 18q,181 18q,182 18q,18m 17q,17y 17q,18n ",
     "17s,18n 17u,18n 185,17y 18k,18n 18m,18n 18n,19s 18q,18n 17v,18n 183,18n 184,18l 184,18n ",
     "18g,18u,18x 18g,18v,18x 18g,18w,18x 187,18p 187,18q 189,18p 189,18q 18a,18p 18a,18q 183,18p ",
     "183,18q 184,18p 184,18q 17x,18p 17x,18q 17w,18p 17w,18q 17y,18p 17y,18q 185,18p 185,18q 186,18p ",
     "186,18q 184,17w 184,17x 184,17y 184,181 183,181 185,181 186,181 17r,18r 17u,17w,18l 17u,17x,17w ",
     "17u,17x,18l 17u,17y,18l 17u,18l,17w 17u,18l,17x 17u,18l,17y 17w,18l,17x 17x,18l,18q 17x,18l,18p ",
     "183,17x,17w 183,17w,17x 183,17w,18p 183,18l,17x 183,18l,17w 183,18l,18l 185,17x,17x 185,18l,18l ",
     "184,17x,18l 184,17w,18q 184,18l,17y 184,18l,18l 186,17x,18p 186,17y,18l 187,18l,17x 187,18l,18l ",
     "187,18l,18q 189,17w,18l 189,18l,18l 189,18l,18p 18a,18l,18l 18a,18l,18q 18a,18l,18p 18h,17y,18l ",
     "18i,18l,17x 18i,18l,18l 18k,17x,18l 18k,17x,18q 18k,17x,18p 18k,17w,17w 18k,17y,18l 18k,18l,17x ",
     "18l,17x,17w 18l,17x,18l 18l,17x,18q 18l,17w,17x 18l,17w,18l 18l,17y,17w 18l,17y,18l 18l,17w,17y ",
     "18n,18l,17w 18n,18l,18l 18m,17x,18l 18m,17x,18p 18m,17w,18l 18m,17w,18p 18m,18l,18q 18m,18l,18p ",
     "18q,18l,18l 17s,17y,18q 17u,17w,18q 17u,17w,18p 17u,17y,18q 17u,17y,18p 17u,18l,18q 17u,18l,18p ",
     "17w,18l,18q 17w,17x,18p 17w,18l,18p 183,17y,18p 185,17x,18q 184,17x,18q 186,17x,18q 18k,17w,18q ",
     "18k,18l,18q 18q,17x,18q 18q,17w,18q 18q,18l,18q 18l,18l,18q 18i,18l,18q 18m,17x,18q 189,18l,18q ",
     "18j,18l,18q 18m,17w,17x 18l,17y,18q 18k,17w,18l 18j,18l,18l 17w,17x,18q 17x,17w,18q 18l,17w,18q ",
     "18h,18l,18q 17s,17x,18q 183,17y,18q 18m,17w,18q 185,18k,1ci 18i,18k,1ci 17r,18k,18k,18n ",
     "17r,18j,17s,181 18l,17x,18l,17z 185,18k,189,18l 181,183,18o,18k 189,18k,18q,18n 18o,183,18k,18l ",
     "185,18k,18p 185,18k,18p,w,17r,18k,18k,18n,w,189,18k,18q,18n,w,18o,183,18k,18l ",
     "17w,18k,w,17w,18k,17r,18k,18n 181,1cc,17r,18k 18 9hd 1m x 1r 9hy 9hz 6c4 6c3 2n 3f 3h 9hw 9hx ",
     "9hs 9ht 9hm 9hn 9ho 9hp 9hq 9hr 2j 2l z 12 16 19 1o 1q 2k 10 11 1s w,18r 18g,18r w,18s w,18t ",
     "w,18u 18g,18u w,18v 18g,18v w,18w 18g,18w w,18x 18g,18x w,18y 18g,18y 17l 17m 17n 17o 17p 17q ",
     "17r 17s 17t 17u 17v 17w 17x 17y 17z 180 181 182 183 184 185 186 187 188 189 18a 18h 18i 18j 18k ",
     "18l 18m 18n 18o 18q 18k,17m 18k,17n 18k,17p 18k,17r y 13 1b 2m 3g 3i 879 87a 9ob 9lt 9lv 9lx 9lz ",
     "9m1 9nn 9np 9nr 9mr 9oc 9o3 9ll 9lm 4i 4j 4s 4m 4l 6g9 7b6 6mo 6mp 6mq 6mr 7fk 7gr 1fe0 1fe1 ",
     "1fe2 1fe3 1fe4 1fe5 1fe6 1fe7 1fe8 1fe9 1fea 1feb 1fec 1fed 1fee 1fef 1feg 1feh 1fei 1fej 1fek ",
     "1fel 1fem 1fen 1feo 1fep 1feq 1fer 1fes 1fet 1feu 1fev 1few 1fex 1fey 1fez 1ff0 1ff1 1ff2 1ff3 ",
     "1fiw 1fix 1fiy 1fiz 1fj0 1fj1 1fj2 1fj3 1fj4 1fj5 1fj6 1fj7 1fj8 1fj9 1fja 1fjb 1fjc 1fjd 1fje ",
     "1fjf 1fjg 1fjh 1fji 1fjj 1fjk 1fjl 1fjm 1fjn 1fjo 1fjp 1fjq 1fjr 1fjs 1fjt 1fju 1fjv 1fo7 1fo8 ",
     "1fo9 1foa 1fob 1foc 1fod 1foe 1fof 1fog 1foh 1foj 1fok 1fol 1fom 1fon 1foo 1fop 1foq 1for 1fos ",
     "1fot 1fou 1fov 1fow 1fox 1foz 1fp0 1fp1 1fp2 1fp3 1fp4 1fp5 1fp7 1fp8 k0 k1 ih ir xuu it is 5u9 ",
     "go gu ix gy ij ik h3 hw iy iz 2mmc x3i ha 2mmd i6 2mme hi hj hm 2mmg hq iw iu xuv iv 8s1 i7 ip ",
     "iq ig cg ch ci 2mmi 2mn2 1h34 1h35 1h36 1h37 1h38 1h39 1h3a 1h3b 1h3c 1h3d 1h3e 1h3f 1h3g 1h3h ",
     "1h3i 1h3j 1h3k 1h3l 1h3m 1h3n 1h3o 1h3p 1h3q 1h3r 1h3s 1h3t 1h3u 1h3v 1h3w 1h3x 1h3y 1h3z 1h40 ",
     "1h41 1h42 1h43 1h44 1h45 1h46 1h47 1h48 1h49 1h4a 1h4b 1h4c 1h4d 1h4e 1h4f 1h4g 1h4h 1h4i 1h80 ",
     "1h81 1h82 1h83 1h84 1h85 1h86 1h87 1h88 1h89 1h8a 1h8b 1h8c 1h8d 1h8e 1h8f 1h8g 1h8h 1h8i 1h8j ",
     "1h8k 1h8l 1jgg 1jgh 1jgi 1jgj 1jgk 1jgl 1jgm 1jgn 1jgo 1jgp 1jgq 1jgr 1jgs 1jgt 1jgu 1jgv 1jgw ",
     "1jgx 1jgy 1jgz 1jh0 1jh1 1jh2 1jh3 1jh4 1jh5 1jh6 1jh7 1jh8 1jh9 1jha 1jhb 20dc 20dd 20de 20df ",
     "20dg 20dh 20di 20dj 20dk 20dl 20dm 20dn 20do 20dp 20dq 20dr 20ds 20dt 20du 20dv 20dw 20dx 20dy ",
     "20dz 20e0 20e1 20e2 20e3 20e4 20e5 20e6 20e7 20fv 20fw 20fx 20fy 20fz 20g0 20g1 20g2 20g3 20g4 ",
     "20g5 20g6 20g7 20g8 20g9 20ga 20gb 20gc 20gd 20ge 20gf 20gg 20gh 20gi 20gj 2jx3,2jxh 2jx4,2jxh ",
     "2jx4,2jxh,2jxq 2jx4,2jxh,2jxr 2jx4,2jxh,2jxs 2jx4,2jxh,2jxt 2jx4,2jxh,2jxu 2jzt,2jxh 2jzu,2jxh ",
     "2jzt,2jxh,2jxq 2jzu,2jxh,2jxq 2jzt,2jxh,2jxr 2jzu,2jxh,2jxr 8h fr 6pz 6pu 2oma 2omb 2omc 2omd ",
     "2ome 2omf 2omg 2omh 2omi 2omj 2omk 2oml 2omm 2omn 2omo 2omp 2omq 2omr 2oms 2omt 2omu 2omv 2omw ",
     "2omx 2omy 2omz 2on0 2on1 2on2 2on3 2on4 2on5 2on6 2on7 19q 1b5 19r 1c,18 1d,18 1e,18 1f,18 1g,18 ",
     "1h,18 1i,18 1j,18 1k,18 1l,18 9hw,37,9hx 3b,3e 2w,3a 37,2s 37,37 34,34,3a 3b,2r 31,2r 31,2s ",
     "31,36 2s,2y 9kr,9jf 9mb,9mb i1j gjw 9mv hlm r8j fj8 k68 mch g99 ivg g3x k34 g7x oqq rs9 hkg gmx ",
     "lxw jh1 jmd si2 jk7 jf7 o01 o6y glk lts n5f gaa gxi sp9 9hw,kdo,9hx 9hw,fex,9hx 9hw,fik,9hx ",
     "9hw,i2x,9hx 9hw,m9l,9hx 9hw,jf7,9hx 9hw,nh3,9hx 9hw,gd9,9hx 9hw,k0n,9hx ivr gkv fgd fg8 fgh 2tcy ",
     "fog fqz fsy fwa fx5 fyn ae6 2ud6 g2c g2s g3b 2u58 aex g2v 2u6j g47 g4k fkc g4s 3ly7 g77 afz g8r ",
     "g92 gaf ahh ged gee gg9 ggq ghf ghp ghr 2v58 m7k gju gkf 2vdv gkr gkx gli gpq gmw gnc go8 gpu ",
     "gs6 gsw gur gv7 gw4 gx7 gxf gxu h7a h7b h1t h2s hke hce hdg he5 haj hf6 hf5 hik 2x9g hki hkn hl2 ",
     "hlu hnm 2xm0 2xnu hrg hsr ht3 hqw huu aum av0 hzc i0u 2y88 i4j i54 i5v 2yhk i67 i6e itv ayp i8w ",
     "ibk ia5 2z1g if7 2z1i ige igb igs ijl ijm b3j ikd ilk im5 ind b4y 2zr7 b5o ipc ipf ipi 3pg2 3035 ",
     "poh isi b7r 335k 3cgq iua iuj b8j ivu ix9 ixj iyh j29 bay ba4 30t0 j47 j7s j7w j96 jaq jac jan ",
     "jby jdc jdn jfh jht jis jm8 31n0 jlp jjw jmw jnn jqc 31td js2 jph jop bhq ju1 jum jvh juf bjg ",
     "k18 32mi k4j kc8 k7d bo9 bns bms g42 g45 kcg k9o pf1 deh kdd kf2 ker 33cz bpl kje kg5 klu 33hp ",
     "kni kkf kr8 ksi kv7 kx6 l2g 33xf l3v bvc l5t 34br l78 bwu l82 l9b la3 34p9 2yvf 34sa le6 354s ",
     "lhb lhp lev ljq lku lm1 lmg lmt 357i lkk lrj lta c37 lvr 35jl lq1 m0e 35ni 35ou m2u m61 m57 c5y ",
     "m6i m7x m7r m99 2u5h mdh 368z mfw 36i3 mjs mkw 36yw mm8 mmt 3779 37dg mt6 mtn cdo mud ce0 myv ",
     "mzg n0l n2i cgr n50 386u n5q 389e 2zrz nbk 38v5 38vs 38zo cn0 cnc 394j 394i 395l 396b nj2 nj3 ",
     "nm3 cp2 cra 39r1 nri ctf 3a5i 3a8q 3a9x o2z cvj o5m o5r 3at8 3b1j oa6 d1e 3b8r og6 og9 d2f 3beo ",
     "onm d5s oo8 oo3 oow 3c06 orn d8h ouf ow2 oxx d9w 3ciw 3cjr dax 3cnt p6i 3cqm p79 pa2 3d22 3d43 ",
     "pcw 3d7s pdc 33a7 ded pf6 phf dfv pj2 hx1 3dlz 3dmd 33bn 33bw pok sda dij psh psb pst gc3 ptd ",
     "ptf ptp puu 3ebg pwd pyb q0d pwj q0t q1z pxv q16 q18 q1o 3eie 3eqz 3emt dnv q9d q9f qae 3g0a qck ",
     "3f3g dp9 dpd 3f75 3ff6 dpn qj4 qjr qjt qll qko qoe qn6 qp4 qqz qrq dsn qu9 qv5 dtl qxs 3giv r13 ",
     "r1a dv9 r22 aez 3gz2 3h46 dz2 dzb rds 3hrc rsb rsx rvf rxz 3i9b 2upw s0b rzw s1c 2uvy s7o 3jki ",
     "3jl9 sk4 smp snl 3ju6 snv svs t07 t08 sxo t89 t91 3ksa tjf ej9 tkn 3l2v eli ts3 iia tur 3ltx ",
     "3lzu epa epi u00 3mdm er6 3mhi u21 3mpi u76 eur u95 ucn ude uf2 ez2 3nsg uv4 v0d f66 f71 v3b ",
     "3owe f7c 3oxx 3p5a 3p8x f9y vem vet vf3 vfa 3pxc"]

def mappingRuns : Array (Nat × Nat) := readRuns mappingTable

def replacements : Array (List Char) :=
  ((replacementTable.splitOn " ").map fun entry =>
    (entry.splitOn ",").map fun cp => Char.ofNat (base36 cp)).toArray

/-- What the domain-name mapping does with a character. -/
def Status.of (c : Char) : Status :=
  match runValue mappingRuns c.toNat with
  | 0 => .valid
  | 2 => .deviation
  | 3 => .ignored
  | 4 => .disallowed
  | v => if v ≥ 5 then .mapped (replacements.getD (v - 5) []) else .disallowed

end Covenant.Text.Unicode
